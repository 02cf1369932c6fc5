import BindingNames.Failure

/-!
The words of a command as a shell cuts them. Blanks outside quotes part words. Single quotes
keep everything between them; double quotes keep all but a backslash before a backslash or a
double quote; a backslash outside quotes keeps the next character. Empty quotes make an empty
word.
-/

namespace BindingNames.Text

/-- Where a cut stands between two characters. -/
inductive WordState where
  | between
  | inWord
  | inQuote (quote : Code)
  | escaped
  | escapedInQuote
  deriving DecidableEq, Repr

def isShellBlank (c : Code) : Bool :=
  c == ' ' || c == '\t' || c == '\r' || c == '\n'

def isShellQuote (c : Code) : Bool :=
  c == '\'' || c == '"'

/-- The words of a text. The current word comes last character first, and it counts even when
empty once it was quoted. -/
def shellWordsFrom (state : WordState) (word : Text) (wasQuoted : Bool) :
    Text → Except WordsFault (List Text)
  | [] =>
    match state with
    | .between => return []
    | .inWord => return if word.isEmpty && !wasQuoted then [] else [word.reverse]
    | .inQuote _ => throw .noClosingQuote
    | .escaped => throw .noEscapedCharacter
    | .escapedInQuote => throw .noEscapedCharacter
  | c :: cs =>
    match state with
    | .inQuote q =>
      if c == q then shellWordsFrom .inWord word true cs
      else if c == '\\' && q == '"' then shellWordsFrom .escapedInQuote word true cs
      else shellWordsFrom (.inQuote q) (c :: word) true cs
    | .escaped => shellWordsFrom .inWord (c :: word) wasQuoted cs
    | .escapedInQuote =>
      let kept := if c == '\\' || c == '"' then c :: word else c :: '\\' :: word
      shellWordsFrom (.inQuote '"') kept true cs
    | _ =>
      if isShellBlank c then
        if word.isEmpty && !wasQuoted then shellWordsFrom .between [] false cs
        else return word.reverse :: (← shellWordsFrom .between [] false cs)
      else if isShellQuote c then shellWordsFrom (.inQuote c) word wasQuoted cs
      else if c == '\\' then shellWordsFrom .escaped word wasQuoted cs
      else shellWordsFrom .inWord (c :: word) wasQuoted cs

def shellWords (s : Text) : Except WordsFault (List Text) :=
  shellWordsFrom .between [] false s

end BindingNames.Text
