import CrudScaffold.Name.Qualified
import CrudScaffold.Report.Basic

/-!
# Finding a model in a report
-/

namespace CrudScaffold.RunReport

/-- The report goes by this name: its whole title, or the simple name in it. -/
def goesBy (title name : String) : Bool :=
  title == name || (QualifiedName.parse title).any fun n => n.name == name

/-- The first report on a model, by its path or its simple name. -/
def model? (r : RunReport) (name : String) : Option ModelReport :=
  r.models.find? fun m => goesBy m.model name

end CrudScaffold.RunReport
