import BindingNames.Failure
import BindingNames.Text.Case

/-!
Log entries and computations that leave some. An entry names its logger, a level, which is a
number, and a message. A logged computation keeps the entries written before a failure, so that
they can be shown beside it.
-/

namespace BindingNames

structure Entry where
  logger : Text
  level : Int
  message : Text
  deriving DecidableEq, Repr, Inhabited

namespace Level

def debug : Int := 10
def info : Int := 20
def warning : Int := 30
def error : Int := 40
def critical : Int := 50

/-- The name under which a level is printed; a level between the named ones shows its number. -/
def name (n : Int) : Text :=
  if n == 0 then "NOTSET"
  else if n == debug then "DEBUG"
  else if n == info then "INFO"
  else if n == warning then "WARNING"
  else if n == error then "ERROR"
  else if n == critical then "CRITICAL"
  else "Level " ++ Text.ofInt n

def named : List (Text × Int) :=
  [("NOTSET", 0), ("DEBUG", debug), ("INFO", info), ("WARN", warning), ("WARNING", warning),
   ("ERROR", error), ("CRITICAL", critical), ("FATAL", critical)]

/-- The level that a setting asks for, in any case; an unknown name asks for the default one.
Two words name other settings of a log and are refused as levels. -/
def ofSetting (s : Text) : Except Failure Int :=
  let s := Text.upper s
  if s == "BASIC_FORMAT" then throw (.unknownLevel "%(levelname)s:%(name)s:%(message)s")
  else if s == "_STYLES" then throw (.kind .notLevel)
  else return (named.lookup s).getD info

end Level

namespace Entry

def toText (e : Entry) : Text :=
  Level.name e.level ++ ": " ++ e.message

end Entry

/-- A computation that writes log entries and then succeeds or fails. -/
structure Logged (α : Type) where
  log : List Entry
  result : Except Failure α

namespace Logged

protected def pure (a : α) : Logged α :=
  ⟨[], .ok a⟩

protected def bind (x : Logged α) (f : α → Logged β) : Logged β :=
  match x.result with
  | .error e => ⟨x.log, .error e⟩
  | .ok a => ⟨x.log ++ (f a).log, (f a).result⟩

instance : Monad Logged where
  pure := Logged.pure
  bind := Logged.bind

def write (entries : List Entry) : Logged Unit :=
  ⟨entries, .ok ()⟩

def tell (logger : Text) (level : Int) (message : Text) : Logged Unit :=
  write [⟨logger, level, message⟩]

def fail (e : Failure) : Logged α :=
  ⟨[], .error e⟩

def lift (x : Except Failure α) : Logged α :=
  ⟨[], x⟩

@[simp] theorem result_pure (a : α) : (pure a : Logged α).result = .ok a := rfl

theorem bind_of_ok {x : Logged α} {a : α} (f : α → Logged β) (h : x.result = .ok a) :
    x >>= f = ⟨x.log ++ (f a).log, (f a).result⟩ := by
  show Logged.bind x f = _
  simp [Logged.bind, h]

theorem bind_of_error {x : Logged α} {e : Failure} (f : α → Logged β) (h : x.result = .error e) :
    x >>= f = ⟨x.log, .error e⟩ := by
  show Logged.bind x f = _
  simp [Logged.bind, h]

@[simp] theorem result_bind (x : Logged α) (f : α → Logged β) :
    (x >>= f).result = x.result >>= fun a => (f a).result := by
  cases h : x.result with
  | error e =>
    rw [bind_of_error f h]
    rfl
  | ok a =>
    rw [bind_of_ok f h]
    rfl

@[simp] theorem result_lift (x : Except Failure α) : (lift x).result = x := rfl

@[simp] theorem result_write (entries : List Entry) : (write entries).result = .ok () := rfl

end Logged

end BindingNames
