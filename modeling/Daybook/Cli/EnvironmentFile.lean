import Daybook.Cli.EnvironmentText
import Daybook.Disk.Basic
import Daybook.Log.Level

/-!
# Environment files

A file `.env` in the working directory can add variables to the environment; those that are set
already stay.  A value can refer to variables as `${NAME}`, or as `${NAME:-default}` with a text that
stands in for one that is not set.

* `reference?`: the reference in front of a text; `fillReferences`: a text with its references
  replaced.
* `bindingsOf`: the variables that statements set.
* `withEnvironmentFile`: an environment with the variables of the file.
-/

namespace Daybook.Cli

open Text

/-! ## References -/

/-- A reference to a variable. -/
structure Reference where
  name : String
  /-- What stands in for a variable that is not set. -/
  standIn : Option String
deriving DecidableEq, Repr

/-- The reference in front of a text, and what follows it. -/
def reference? (cs : List Char) : Option (Reference × List Char) :=
  match cs with
  | '$' :: '\x7b' :: body =>
    let inName := fun c => c != '\x7d' && c != ':'
    let name := String.ofList (body.takeWhile inName)
    match body.dropWhile inName with
    | '\x7d' :: rest => some (⟨name, none⟩, rest)
    | ':' :: '-' :: more =>
      match more.dropWhile (· != '\x7d') with
      | [] => none
      | _ :: rest => some (⟨name, some (String.ofList (more.takeWhile (· != '\x7d')))⟩, rest)
    | _ => none
  | _ => none

/-- What follows a reference is shorter than the text with it. -/
theorem length_of_reference? {cs rest : List Char} {r : Reference}
    (h : reference? cs = some (r, rest)) : rest.length < cs.length := by
  unfold reference? at h
  split at h
  · rename_i body
    have hbody := length_dropWhile_le (fun c => c != '\x7d' && c != ':') body
    simp only at h
    split at h
    · rename_i tail heq
      rw [heq] at hbody
      simp only [Option.some.injEq, Prod.mk.injEq] at h
      obtain ⟨-, rfl⟩ := h
      simp only [List.length_cons] at hbody ⊢
      omega
    · rename_i more heq
      rw [heq] at hbody
      have hmore := length_dropWhile_le (· != '\x7d') more
      split at h
      · simp at h
      · rename_i tail heq'
        rw [heq'] at hmore
        simp only [Option.some.injEq, Prod.mk.injEq] at h
        obtain ⟨-, rfl⟩ := h
        simp only [List.length_cons] at hbody hmore ⊢
        omega
    · simp at h
  · simp at h

/-- A text with every reference replaced by what `value` gives for it. -/
def fillReferences (value : Reference → String) (cs : List Char) : List Char :=
  match cs with
  | [] => []
  | c :: rest =>
    match _h : reference? (c :: rest) with
    | some (r, after) => (value r).toList ++ fillReferences value after
    | none => c :: fillReferences value rest
termination_by cs.length
decreasing_by
  · exact length_of_reference? _h
  · simp only [List.length_cons]
    omega

/-- The references of a text, in order. -/
def referencesOf (cs : List Char) : List Reference :=
  match cs with
  | [] => []
  | c :: rest =>
    match _h : reference? (c :: rest) with
    | some (r, after) => r :: referencesOf after
    | none => referencesOf rest
termination_by cs.length
decreasing_by
  · exact length_of_reference? _h
  · simp only [List.length_cons]
    omega

/-! ## Bindings -/

/-- Variables with their values, or without one if they are only named. -/
abbrev Bindings := Table String (Option String)

/-- The value of a reference: that of the environment, else the one that an earlier statement gave,
else what stands in for it. -/
def referenceValue (env : Environment) (earlier : Bindings) (r : Reference) : String :=
  match env.get? r.name with
  | some value => value
  | none =>
    match earlier.get? r.name with
    | some value => value.getD ""
    | none => r.standIn.getD ""

/-- Adds what a statement sets. -/
def addStatement (env : Environment) (earlier : Bindings) : Statement → Bindings
  | .binding key value =>
    earlier.insert key
      (value.map fun v => String.ofList (fillReferences (referenceValue env earlier) v.toList))
  | _ => earlier

/-- The variables that statements set; a later statement wins. -/
def bindingsOf (env : Environment) (statements : List Statement) : Bindings :=
  statements.foldl (addStatement env) .empty

/-- What is said about a statement that is not understood. -/
def Statement.warning? : Statement → Option String
  | malformed line =>
    some ("python-dotenv could not parse statement starting at line " ++ toString line)
  | _ => none

/-- The variables that a statement sets or refers to. -/
def Statement.mentions : Statement → List String
  | binding key value =>
    key :: (referencesOf ((value.getD "").toList)).map (·.name)
  | _ => []

/-! ## The file -/

/-- The name of the file. -/
def environmentFileName : String := ".env"

/-- Why the file cannot be used. -/
inductive EnvironmentError where
  /-- The file is not a text. -/
  | notText (fault : DecodeFault)
  /-- A name or a value holds a null character. -/
  | nullCharacter
  /-- A name holds an equals sign. -/
  | illegalName
deriving DecidableEq, Repr

/-- The wording of an error. -/
def EnvironmentError.message : EnvironmentError → String
  | notText fault => fault.message
  | nullCharacter => PathError.nullCharacter.message
  | illegalName => "illegal environment variable name"

/-- Sets a variable that is not set. -/
def setVariable (env : Environment) (key : String) (value : Option String) :
    Except EnvironmentError Environment :=
  match value with
  | none => .ok env
  | some value =>
    if env.contains key then .ok env
    else if hasNull key || hasNull value then .error .nullCharacter
    else if key.toList.contains '=' then .error .illegalName
    else .ok (env.insert key value)

/-- The statements of the environment file in a directory; without a file there are none. -/
def statementsIn (disk : Disk) (directory : Path) : Except EnvironmentError (List Statement) :=
  match disk.readText (directory.child environmentFileName) with
  | .ok text => .ok (readStatements text)
  | .error (.notText fault) => .error (.notText fault)
  | .error _ => .ok []

/-- An environment with the variables of the environment file in a directory, and the warnings. -/
def withEnvironmentFile (disk : Disk) (directory : Path) (env : Environment) :
    Except EnvironmentError (Environment × List String) := do
  let statements ← statementsIn disk directory
  let env ← (bindingsOf env statements).entries.foldlM (fun env b => setVariable env b.1 b.2) env
  return (env, statements.filterMap (·.warning?))

end Daybook.Cli
