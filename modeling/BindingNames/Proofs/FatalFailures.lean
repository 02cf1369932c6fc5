import BindingNames.Proofs.Outcomes
import BindingNames.Proofs.ProgramStages
import BindingNames.Proofs.WrittenFiles

/-!
Failures before the outputs. What the parser, repeated symbols and the libraries make a run fail
with is nothing that writing the outputs can fail with, so a run with such a failure stopped before
them, and all that it does to the disk is to note its log. The program then ends with the code 1. A
log may stand in the place of an output, and then this file grows by what is logged.
-/

namespace BindingNames

open Text

namespace Mapper

variable {t : Tools} {m : Mapper} {note : Disk → List Entry → Disk} {d : Disk}
  {output report : Option Text} {e : Failure}

end Mapper

/-! ### What the log touches -/

namespace Program

variable {t : Tools} {d : Disk} {settings : LogOutput.Settings}

/-- A run of a mapper as the program starts it: the settings of its log, the mapper, the disk by
then, and the outputs that the arguments ask for. -/
structure Launch where
  settings : LogOutput.Settings
  mapper : Mapper
  disk : Disk
  output : Option Text
  report : Option Text

def Launch.run (t : Tools) (l : Launch) : RunState × Logged Unit :=
  l.mapper.run t (note t l.settings) l.disk l.output l.report

variable {words : List Text} {l : Launch} {e : Failure}

end Program

end BindingNames
