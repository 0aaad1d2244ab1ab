import Mathlib.Data.List.Basic
import Mathlib.Tactic.MkIffOfInductiveProp
import Mathlib.Logic.Basic

/-!
# Sessions of a READ COMMITTED database

A service method is a *program*: a tree of database statements whose continuation
receives what the statement replied — the rows the session sees, or the error the
statement failed with. The same program is run on its own (`Prog.run`) or as one of
several interleaved sessions (`ReadCommitted.Schedule`).

The database is a value of any type `σ`; row locks are named by `κ`, reads are
labelled by `Λ` (what was looked at, for statements about stale reads), and `ε` is
the type of errors.

* A statement outside a transaction commits on its own.
* Inside a transaction writes are kept as the function `w : σ → σ` they apply, so the
  session sees `w db` for the committed `db` of the moment — each statement takes a
  fresh snapshot — and `COMMIT` publishes `w` on the committed state it finds.
* After an error a transaction is aborted: every further statement fails, `COMMIT`
  and `ROLLBACK` both end it without effect.
* Any statement may fail by itself (a lost connection, a deadlock, a timeout) with an
  error `lost m`.
-/

namespace ReadCommitted

/-- One database statement. -/
inductive Stmt (σ κ Λ ε : Type) where
  /-- `SELECT`. -/
  | read (l : Λ)
  /-- `SELECT … FOR UPDATE`: also locks the rows it returns. -/
  | lock (l : Λ) (rows : σ → List κ)
  /-- `INSERT`, `UPDATE`, `DELETE`: locks the rows it writes, may violate a constraint. -/
  | write (rows : σ → List κ) (f : σ → Except ε σ)
  | begin
  | commit
  | rollback

/-- The transaction a session is in. -/
inductive Tx (σ : Type) where
  | idle
  /-- Open, having written `w` so far. -/
  | active (w : σ → σ)
  | aborted

/-- The errors a statement can fail with by itself. -/
class Faults (ε : Type) where
  lost : String → ε

export Faults (lost)

/-- What a session has done, for the statements about stale reads: it saw the committed
state `s` through a read labelled `l`, or it published the write `w`. -/
inductive Obs (σ Λ : Type) where
  | saw (l : Λ) (s : σ)
  | wrote (w : σ → σ)

variable {σ κ Λ ε α β : Type} [Faults ε]

/-- The state as the session sees it: the committed rows under its own writes. -/
def Tx.view : Tx σ → σ → σ
  | .active w, db => w db
  | _, db => db

@[simp] theorem Tx.view_idle (db : σ) : (Tx.idle : Tx σ).view db = db := rfl
@[simp] theorem Tx.view_active (w : σ → σ) (db : σ) : (Tx.active w : Tx σ).view db = w db := rfl

/-- The effect of a write that may be refused: nothing when it is. -/
def applied (f : σ → Except ε σ) (db : σ) : σ :=
  match f db with
  | .ok db' => db'
  | .error _ => db

omit [Faults ε] in
@[simp] theorem applied_ok (f : σ → σ) : applied (ε := ε) (fun db => .ok (f db)) = f := rfl

/-- What a statement does when it is carried out. -/
structure Outcome (σ Λ ε : Type) where
  reply : Except ε σ
  tx : Tx σ
  db : σ
  obs : List (Obs σ Λ)

/-- SQLSTATE 25P02: the transaction is aborted. -/
def inFailedTransaction : String := "25P02"

/-- One statement of a session in transaction `t`, on the committed state `db`. A write
replies with the state it found, from which `RETURNING` is computed. -/
def Stmt.exec : Stmt σ κ Λ ε → Tx σ → σ → Outcome σ Λ ε
  | .read l, .idle, db => ⟨.ok db, .idle, db, [.saw l db]⟩
  | .read l, .active w, db => ⟨.ok (w db), .active w, db, [.saw l db]⟩
  | .read _, .aborted, db => ⟨.error (lost inFailedTransaction), .aborted, db, []⟩
  | .lock l _, .idle, db => ⟨.ok db, .idle, db, [.saw l db]⟩
  | .lock l _, .active w, db => ⟨.ok (w db), .active w, db, [.saw l db]⟩
  | .lock _ _, .aborted, db => ⟨.error (lost inFailedTransaction), .aborted, db, []⟩
  | .write _ f, .idle, db =>
    match f db with
    | .ok db' => ⟨.ok db, .idle, db', [.wrote (applied f)]⟩
    | .error e => ⟨.error e, .idle, db, []⟩
  | .write _ f, .active w, db =>
    match f (w db) with
    | .ok _ => ⟨.ok (w db), .active (applied f ∘ w), db, []⟩
    | .error e => ⟨.error e, .aborted, db, []⟩
  | .write _ _, .aborted, db => ⟨.error (lost inFailedTransaction), .aborted, db, []⟩
  | .begin, .idle, db => ⟨.ok db, .active id, db, []⟩
  | .begin, t, db => ⟨.ok (t.view db), t, db, []⟩
  | .commit, .active w, db => ⟨.ok (w db), .idle, w db, [.wrote w]⟩
  | .commit, _, db => ⟨.ok db, .idle, db, []⟩
  | .rollback, _, db => ⟨.ok db, .idle, db, []⟩

/-- A statement that fails by itself has no effect and aborts the transaction; a failed
`COMMIT` or `ROLLBACK` leaves none open. -/
def Stmt.fault : Stmt σ κ Λ ε → Tx σ → Tx σ
  | .commit, _ => .idle
  | .rollback, _ => .idle
  | _, .active _ => .aborted
  | _, t => t

/-- The rows a statement must find unlocked, and keeps locked to the end of its
transaction. -/
def Stmt.needs : Stmt σ κ Λ ε → σ → List κ
  | .lock _ rows, db => rows db
  | .write rows _, db => rows db
  | _, _ => []

/-- A program: the statements of one service call. -/
inductive Prog (σ κ Λ ε α : Type) where
  | ret (a : α)
  | throw (e : ε)
  | exec (c : Stmt σ κ Λ ε) (k : Except ε σ → Prog σ κ Λ ε α)

namespace Prog

def bind : Prog σ κ Λ ε α → (α → Prog σ κ Λ ε β) → Prog σ κ Λ ε β
  | .ret a, f => f a
  | .throw e, _ => .throw e
  | .exec c k, f => .exec c fun r => (k r).bind f

/-- `try … catch`. -/
def tryCatch : Prog σ κ Λ ε α → (ε → Prog σ κ Λ ε α) → Prog σ κ Λ ε α
  | .ret a, _ => .ret a
  | .throw e, h => h e
  | .exec c k, h => .exec c fun r => (k r).tryCatch h

instance : Monad (Prog σ κ Λ ε) where
  pure := .ret
  bind := bind

instance : MonadExceptOf ε (Prog σ κ Λ ε) where
  throw := .throw
  tryCatch := tryCatch

omit [Faults ε] in
theorem bind_assoc {γ : Type} (p : Prog σ κ Λ ε α) (f : α → Prog σ κ Λ ε β)
    (g : β → Prog σ κ Λ ε γ) : (p >>= f) >>= g = p >>= fun a => f a >>= g := by
  have h : (p.bind f).bind g = p.bind fun a => (f a).bind g := by
    induction p with
    | ret a => rfl
    | throw e => rfl
    | exec c k ih => exact congrArg (Prog.exec c) (funext ih)
  exact h

/-- A statement whose failure is thrown and whose reply is read by `q`. -/
def stmt (c : Stmt σ κ Λ ε) (q : σ → α) : Prog σ κ Λ ε α :=
  .exec c fun
    | .ok db => .ret (q db)
    | .error e => .throw e

/-- `SELECT`. -/
def select (l : Λ) (q : σ → α) : Prog σ κ Λ ε α := stmt (.read l) q

/-- `SELECT … FOR UPDATE`. -/
def selectForUpdate (l : Λ) (rows : σ → List κ) (q : σ → α) : Prog σ κ Λ ε α :=
  stmt (.lock l rows) q

/-- `INSERT` or `UPDATE` that no constraint refuses, with what it returns. -/
def write (rows : σ → List κ) (f : σ → σ) (q : σ → α) : Prog σ κ Λ ε α :=
  stmt (.write rows fun db => .ok (f db)) q

/-- `INSERT` that a unique index may refuse. -/
def writeChecked (rows : σ → List κ) (f : σ → Except ε σ) (q : σ → α) : Prog σ κ Λ ε α :=
  stmt (.write rows f) q

/-- `db.transaction(async (tx) => …)`: commit at the end of the body, roll back and
rethrow whatever it throws. -/
def transaction (body : Prog σ κ Λ ε α) : Prog σ κ Λ ε α :=
  (stmt .begin fun _ => ()).bind fun _ =>
    (body.bind fun a => stmt .commit fun _ => a).tryCatch fun e =>
      .exec .rollback fun _ => .throw e

/-- A transaction whose body ends by throwing what its caller catches: rolled back, while
the value computed on the way is kept. -/
def rolledBack (body : Prog σ κ Λ ε α) : Prog σ κ Λ ε α :=
  (stmt .begin fun _ => ()).bind fun _ =>
    (body.bind fun a => stmt .rollback fun _ => a).tryCatch fun e =>
      .exec .rollback fun _ => .throw e

/-- `if (c) throw e`. -/
def throwIf (c : Prop) [Decidable c] (e : ε) : Prog σ κ Λ ε Unit :=
  if c then .throw e else .ret ()

/-- `if (c) p`. -/
def when (c : Prop) [Decidable c] (p : Prog σ κ Λ ε Unit) : Prog σ κ Λ ε Unit :=
  if c then p else .ret ()

/-- `if (x) p(x)`. -/
def forSome (x : Option α) (p : α → Prog σ κ Λ ε Unit) : Prog σ κ Λ ε Unit :=
  match x with
  | some a => p a
  | none => .ret ()

/-- `p` for each element, one after the other. -/
def all {β : Type} (p : β → Prog σ κ Λ ε α) : List β → Prog σ κ Λ ε (List α)
  | [] => .ret []
  | b :: bs => (p b).bind fun a => (all p bs).bind fun as => .ret (a :: as)

/-- `if (!row) throw e; return row`. -/
def orThrow : Option α → ε → Prog σ κ Λ ε α
  | some a, _ => .ret a
  | none, e => .throw e

/-- A pure function that may throw. -/
def lift : Except ε α → Prog σ κ Λ ε α
  | .ok a => .ret a
  | .error e => .throw e

/-! ## Running one program on its own -/

/-- How a run ended: the value or the error, the database and what the session did. -/
structure Result (σ Λ ε α : Type) where
  res : Except ε α
  db : σ
  trace : List (Obs σ Λ)

/-- Run a program alone. `φ n = some m` makes the `n`-th statement from here fail. -/
def runFrom : Prog σ κ Λ ε α → (ℕ → Option String) → Tx σ → σ → List (Obs σ Λ) → Result σ Λ ε α
  | .ret a, _, _, db, h => ⟨.ok a, db, h⟩
  | .throw e, _, _, db, h => ⟨.error e, db, h⟩
  | .exec c k, φ, t, db, h =>
    match φ 0 with
    | some m => (k (.error (lost m))).runFrom (fun n => φ (n + 1)) (c.fault t) db h
    | none =>
      (k (c.exec t db).reply).runFrom (fun n => φ (n + 1)) (c.exec t db).tx (c.exec t db).db
        ((c.exec t db).obs ++ h)

/-- No statement fails by itself. -/
def noFaults : ℕ → Option String := fun _ => none

/-- Run a program alone on `db`, with the faults `φ`. -/
def runWith (φ : ℕ → Option String) (p : Prog σ κ Λ ε α) (db : σ) : Result σ Λ ε α :=
  p.runFrom φ .idle db []

/-- Run a program alone on `db`. -/
def run (p : Prog σ κ Λ ε α) (db : σ) : Result σ Λ ε α := p.runWith noFaults db

end Prog

/-! ## Simplification -/

theorem trivially : (∀ α : Type, (α → True) = True) ∧ (∀ p : Prop, (p → True) = True) ∧
    (∀ p, (p ∧ True) = p) ∧ ∀ p, (True ∧ p) = p :=
  ⟨implies_true, implies_true, and_true, true_and⟩

theorem and_decide_eq : (∀ a b, ((a && b) = true) = (a = true ∧ b = true)) ∧
    ∀ (p : Prop) [Decidable p], (decide p = true) = p :=
  ⟨Bool.and_eq_true, fun _ _ => decide_eq_true_eq⟩

export Prog (select selectForUpdate write writeChecked transaction rolledBack throwIf when forSome
  orThrow lift all noFaults)

end ReadCommitted
