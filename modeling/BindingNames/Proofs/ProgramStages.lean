import BindingNames.Program

/-!
Stages of the program. The configuration that the arguments name is looked for and read, a log is
set up for it, and then it is saved, or checked and mapped. Each stage has an equation for the case
that the ones before it pass, so that no proof about a late stage opens an early one.
-/

namespace BindingNames

/-- The exit code of an end. A failure that gets out leaves none. -/
def ProgramEnd.code? : ProgramEnd → Option Nat
  | .exit code => some code
  | .complaint _ => some 1
  | .crash _ => none
  | .logged code _ _ => some code

namespace Program

variable {t : Tools} {d d₁ : Disk} {x : Arguments} {c : Configuration}
  {settings : LogOutput.Settings}

theorem run_of_parse {words : List Text} (h : Arguments.parse words = .run x) :
    run t d words = withArguments t d x := by
  simp only [run, h]

/-! ### The configuration -/

/-- A configuration as the program uses it: told to tell more, it logs all there is. -/
def effective (x : Arguments) (c : Configuration) : Configuration :=
  if x.verbose then { c with logLevel := .text "DEBUG" } else c

/-- The configuration that the arguments name, if its file is there and can be read. -/
def loaded? (d : Disk) (x : Arguments) : Option Configuration := do
  let name ← x.config
  let present ← (d.has (.ofText name)).toOption
  if present then
    let c ← (Configuration.ofFile d (Path.ofText name).toText).toOption
    return effective x c
  else none

theorem loaded?_eq_some_iff :
    loaded? d x = some c ↔ ∃ name, x.config = some name ∧ ∃ c', d.has (.ofText name) = .ok true ∧
      Configuration.ofFile d (Path.ofText name).toText = .ok c' ∧ c = effective x c' := by
  unfold loaded?
  cases hname : x.config with
  | none => simp
  | some name =>
      cases hpresent : d.has (.ofText name) with
      | error fault => simp [hpresent, Except.toOption]
      | ok present =>
          cases present with
          | false => simp [hpresent, Except.toOption]
          | true =>
              cases hfile : Configuration.ofFile d (Path.ofText name).toText with
              | error e => simp [hpresent, hfile, Except.toOption]
              | ok c' => simp [hpresent, hfile, Except.toOption, eq_comm]

/-- With a configuration that is read, the program goes on to set up the log. -/
theorem withArguments_of_loaded (h : loaded? d x = some c) :
    withArguments t d x =
      match LogOutput.setUp d c.logLevel c.logFile "" with
      | .error e => (d, .crash e)
      | .ok (settings, d) => withLog t d c settings x := by
  obtain ⟨name, hname, c', hpresent, hfile, rfl⟩ := loaded?_eq_some_iff.mp h
  simp only [withArguments, withConfigurationFile, hname, hpresent, hfile]
  rfl

/-! ### The log -/

theorem withLog_of_save {path : Text} (h : nonempty? x.dumpConfig = some path) :
    withLog t d c settings x = save t d c settings path := by
  simp only [withLog, h]

theorem withLog_of_check (h : nonempty? x.dumpConfig = none) :
    withLog t d c settings x = checkAndMap t d c settings x := by
  simp only [withLog, h]

/-! ### The check -/

/-- A check without complaints leads to the mapping. -/
theorem checkAndMap_of_valid (h : (c.validate d).result = .ok []) :
    checkAndMap t d c settings x =
      ((map t (note t settings d (c.validate d).log) c settings x).1,
        .logged (map t (note t settings d (c.validate d).log) c settings x).2.1 settings
          ((c.validate d).log ++
            (map t (note t settings d (c.validate d).log) c settings x).2.2)) := by
  simp only [checkAndMap, h]

end Program

end BindingNames
