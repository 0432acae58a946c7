import ClusterOperator.Controller.SpecFrame

namespace ClusterOperator.Controller

open Api Kubernetes Interaction Resource

def report (o : Outcome api Store (Result × Option Memory)) : Option (Option ℕ × List ℕ) :=
  (o.result.bind Prod.snd).map fun m => (m.observed, m.computed)

end ClusterOperator.Controller
