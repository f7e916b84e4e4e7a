/-
Sda/Renewal/Models.lean

What the two renewals of expiring offers share: the answers of the database, and
the feature flags that arm them (sync/services/shared/feature_flags.py).

A renewal is one process among any number (`Sda.Lib.Rely`): its own ledger is
the store, and every other table, every remote answer and the fate of every
commit is given to it from outside, as it may be at the moment it is asked for.
Times are in microseconds.
-/
import Sda.Lib.Rely
import Sda.Lib.Text
import Sda.Lib.Unique
import Sda.Pool.Db

namespace Sda

/-- The exceptions a renewal tells apart. -/
inductive Raised
  | integrityError | other
  deriving DecidableEq, Repr

/-- The end of a transaction: committed, rolled back with an exception, or committed
while the connection broke before the answer came. -/
inductive Commit
  | done | rolledBack | lost
  deriving DecidableEq, Repr

/-- A transaction that leaves `s'` and answers `a`. -/
def Commit.settle {σ α : Type} (c : Commit) (a : α) (s s' : σ) : Except Raised α × σ :=
  match c with
  | .done => (.ok a, s')
  | .rolledBack => (.error .other, s)
  | .lost => (.error .other, s')

theorem Commit.settle_cases {σ α : Type} (c : Commit) (a : α) (s s' : σ) :
    (c.settle a s s').2 = s' ∨
      (c.settle a s s').1 = .error .other ∧ (c.settle a s s').2 = s := by
  cases c with
  | done => exact Or.inl rfl
  | rolledBack => exact Or.inr ⟨rfl, rfl⟩
  | lost => exact Or.inl rfl

/-- `IntegrationAccount.Role`. -/
inductive Role
  | buy | sell | both
  deriving DecidableEq, Repr

/-! ### Dates -/

/-- `timedelta(days=n)`. -/
def days (n : Int) : Int := n * 86400000000

/-- `value.replace('Z', '+00:00')`. -/
def replaceZulu (s : String) : String :=
  String.ofList (s.toList.flatMap fun c => if c = 'Z' then "+00:00".toList else [c])

/-! ### Feature flags -/

/-- `SyncFeatureFlag`: `providers` is that list of the mapping `value`, if it is one,
with `none` for an entry that is no text. -/
structure FeatureFlag where
  isEnabled : Bool
  providers : Option (List (Option String)) := none
  deriving DecidableEq, Repr

def renewableProviders : List String := ["playerauctions", "eldorado"]

/-- **`unified_renewal_providers`**, on the flag `RENEW_EXPIRING_LISTINGS`. -/
def unifiedRenewalProviders (flag : Except Raised (Option FeatureFlag)) : List String :=
  match flag with
  | .error _ => []
  | .ok none => []
  | .ok (some flag) =>
    match flag.isEnabled, flag.providers with
    | true, some configured =>
      if configured.all fun p => p.any renewableProviders.contains then
        renewableProviders.filter fun p => configured.contains (some p)
      else []
    | _, _ => []

/-- **`is_sync_feature_enabled`**. -/
def isSyncFeatureEnabled (flag : Except Raised (Option FeatureFlag)) (whenMissing : Bool) : Bool :=
  match flag with
  | .error _ => whenMissing
  | .ok none => whenMissing
  | .ok (some flag) => flag.isEnabled

end Sda
