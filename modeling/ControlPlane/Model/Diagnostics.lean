import ControlPlane.Framework.Splice
import Mathlib.Data.List.Sort

/-!
# Diagnostics without credentials

`native_diagnostics.py`: `sanitized` redacts a log before it is published. A `str` is the list
of its characters. What the language leaves to the interpreter, the order in which a set is
iterated and the search of `re`, is a parameter.
-/

namespace ControlPlane.Diagnostics

open Framework

abbrev Text : Type := List Char

structure Interpreter where
  /-- `list(set(values))` -/
  set : List Text → List Text
  mem_set : ∀ values value, value ∈ set values ↔ value ∈ values
  /-- The matches that `re.sub` replaces, with what leads each of them as its first group. -/
  search : (pattern : String) → Text → Splitting Char
  source_search : ∀ pattern text, (search pattern text).source = text

/-- `[redacted-credential]` -/
def redactedCredential : Marker Char := ⟨'[', "redacted-credential".toList, ']'⟩

/-- `[redacted-private-value]` -/
def redactedPrivateValue : Marker Char := ⟨'[', "redacted-private-value".toList, ']'⟩

/-- The patterns that are replaced as a whole, without regard to case. -/
def patterns : List String :=
  ["postgres(?:ql)?://[^\\s]+", "(?:AKIA|ASIA)[A-Z0-9]\x7b16\x7d",
    "eyJ[A-Za-z0-9_-]+\\.[A-Za-z0-9_.-]+", "arn:aws:[^\\s\\\"\x27,\x7d]+",
    "[a-z0-9.-]+\\.rds\\.amazonaws\\.com", "\\b\\d\x7b12\x7d\\b",
    "\\b(?:\\d\x7b1,3\x7d\\.)\x7b3\x7d\\d\x7b1,3\x7d\\b"]

/-- The assignment to a name that tells of a credential; the first group is kept. -/
def assignment : String :=
  "(?i)((?:password|authorization|access_token|secret_access_key)\\s*[=:]\\s*)[^\\s,;]+"

/-- `sorted(set(credentials), key=len, reverse=True)` -/
def sortedCredentials (py : Interpreter) (credentials : List Text) : List Text :=
  (py.set credentials).insertionSort fun a b => b.length ≤ a.length

/-- One turn of the loop over the credentials. -/
def redact (text value : Text) : Text :=
  if value = [] then text else replace value redactedCredential.text text

/-- One turn of the loop over the patterns. -/
def hide (py : Interpreter) (text : Text) (pattern : String) : Text :=
  (py.search pattern text).mark (fun _ => []) redactedPrivateValue.text

/-- `sanitized(text, credentials)` -/
def sanitized (py : Interpreter) (text : Text) (credentials : List Text) : Text :=
  let text := (sortedCredentials py credentials).foldl redact text
  let text := patterns.foldl (hide py) text
  (py.search assignment text).mark Match.group redactedCredential.text

end ControlPlane.Diagnostics
