import Tickr.Concurrent

/-!
# Programs as clients of a larger system

A system may have another one as a part: among its calls are those of the part.
A program of the part then runs as a client of the whole.
-/

namespace Tickr.Concurrent.Program

variable {Op Outer : Type} {Reply : Op → Type} {OuterReply : Outer → Type} {α β ε ε' : Type}
  (into : Op → Outer) (back : ∀ op, OuterReply (into op) → Reply op)

/-- The program with each of its calls made to the whole. -/
def embed : Program Op Reply α → Program Outer OuterReply α
  | .done result => .done result
  | .call op next => .call (into op) fun reply => embed (next (back op reply))

theorem embed_bind (program : Program Op Reply α) (rest : α → Program Op Reply β) :
    (program >>= rest).embed into back = program.embed into back >>= fun value =>
        (rest value).embed into back := by
  induction program with
  | done => rfl
  | call op next ih => exact congrArg (Program.call _) (funext fun _ => ih _)

theorem All.embed {allowed : Op → Prop} {program : Program Op Reply α}
    (calls : program.All allowed) :
    (program.embed into back).All fun outer =>
      ∃ op, outer = into op ∧ allowed op := by
  induction program with
  | done => trivial
  | call op _ ih =>
    exact ⟨⟨op, rfl, calls.1⟩, fun reply =>
      ih (back op reply) (calls.2 (back op reply))⟩

variable (into : Op → Outer) (back : ∀ op, OuterReply (into op) → Reply op)
  (program : ExceptT ε (Program Op Reply) α)

def embedExcept : ExceptT ε (Program Outer OuterReply) α := ExceptT.mk (program.run.embed into back)

theorem embedExcept_bind (rest : α → ExceptT ε (Program Op Reply) β) :
    embedExcept into back (program >>= rest) = embedExcept into back program >>= fun value =>
        embedExcept into back (rest value) := by
  apply ExceptT.ext
  simp only [embedExcept, ExceptT.run_bind, ExceptT.run_mk, embed_bind]
  congr 1
  funext result
  cases result with
  | ok | error => rfl

theorem embedExcept_attempt :
    (embedExcept into back (attempt program) : ExceptT ε' (Program Outer OuterReply) (Except ε α)) =
      attempt (embedExcept into back program) := by
  simp only [embedExcept, attempt, ExceptT.run_mk, embed_bind]
  rfl

end Tickr.Concurrent.Program
