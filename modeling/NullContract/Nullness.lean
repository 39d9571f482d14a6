/-!
The four verdicts on a value and how two of them are joined. The order read off the join has
`nonNull` below `unknown`, and both `unknown` and `null` below `nullable`.
-/

namespace NullContract

inductive Nullness where
  | null
  | nullable
  | nonNull
  | unknown
deriving DecidableEq, Inhabited

namespace Nullness

def mayBeNull : Nullness → Bool
  | null | nullable => true
  | nonNull | unknown => false

def join (a b : Nullness) : Nullness :=
  if a = b then a
  else if a.mayBeNull || b.mayBeNull then nullable
  else unknown

def joinAll : List Nullness → Nullness
  | [] => nonNull
  | x :: xs => xs.foldl join x

def text : Nullness → String
  | null => "null"
  | nullable => "nullable"
  | nonNull => "non-null"
  | unknown => "unknown"

theorem join_comm (a b : Nullness) : join a b = join b a := by
  cases a <;> cases b <;> rfl

theorem join_assoc (a b c : Nullness) : join (join a b) c = join a (join b c) := by
  cases a <;> cases b <;> cases c <;> rfl

@[simp] theorem join_self (a : Nullness) : join a a = a := by
  simp [join]

end Nullness

end NullContract
