/-!
# What a command writes
-/

namespace MonkeySyntax

structure Output where
  stdout : String
  stderr : String
deriving DecidableEq, Repr, Inhabited

namespace Output

def none : Output := ⟨"", ""⟩

def out (text : String) : Output := ⟨text, ""⟩

def err (text : String) : Output := ⟨"", text⟩

instance : Append Output := ⟨fun a b => ⟨a.stdout ++ b.stdout, a.stderr ++ b.stderr⟩⟩

@[simp]
theorem stdout_append (a b : Output) : (a ++ b).stdout = a.stdout ++ b.stdout := rfl

@[simp]
theorem stderr_append (a b : Output) : (a ++ b).stderr = a.stderr ++ b.stderr := rfl

end Output

/-- How a program ends. A wrong command line ends it before it has written anything. -/
inductive Outcome where
  | usage
  | finished (status : Nat) (output : Output)
deriving DecidableEq, Repr

end MonkeySyntax
