import MonkeySyntax.Parsing.Fault

/-!
# Diagnostics

What a report says about one fault: a headline, a label for a range of the source, and perhaps a
note.
-/

namespace MonkeySyntax

structure Label where
  start : Nat
  stop : Nat
  message : String
deriving DecidableEq, Repr

structure Diagnostic where
  code : String
  message : String
  label : Label
  note : Option String
deriving DecidableEq, Repr

def Fault.diagnostic (fault : Fault) : Diagnostic where
  code := fault.code
  message := fault.message
  label := ⟨fault.span.start, fault.span.stop, fault.label⟩
  note := fault.hint?.map ("help: " ++ ·)

end MonkeySyntax
