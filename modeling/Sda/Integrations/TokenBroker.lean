/-
Sda/Integrations/TokenBroker.lean

The token broker: one credential row, and any number of callers of `get_token`.

A caller reads the row, returns its token if that is valid, and otherwise waits
for the row lock.  Under the lock it reads the row again, looks at the token and
at the cooldown again, and refreshes.  A refresh that is throttled rolls its
transaction back, and records the cooldown after that, from the copy of the
credentials it read under the lock.

* `tokenStep` — one step of one caller, or of the clock;
* `Broker.Inv` — what every phase of a caller says about the row and its lock;
* `token_broker_safe_iff` — the broker is safe on exactly the runs in which every
  cooldown is recorded before another refresh is saved;
* `token_broker_safe_fails` — a cooldown that is recorded after a refresh was
  saved takes the old tokens back.

Times are in microseconds.  A token carries the end of its validity, which the
row records in a column of its own.
-/
import Mathlib.Logic.Function.Basic
import Sda.Lib.Run
import Sda.Lib.Text

namespace Sda.Integrations

section TokenBroker

/-- A number of seconds. -/
def seconds (n : Nat) : Nat := n * 1000000

def TOKEN_SAFETY_BUFFER : Nat := seconds 60

def COGNITO_COOLDOWN_SECONDS : Nat := seconds 900

/-- `EldoradoCognitoAuth.TOKEN_TTL_SECONDS`, the `expires_in` of every refresh. -/
def TOKEN_TTL_SECONDS : Nat := seconds 3600

/-- An id token and the end of its validity. -/
structure Token where
  text : String
  validUntil : Nat
  deriving DecidableEq, Repr

/-- The entries of `credentials` that the broker reads or writes. -/
structure Credentials where
  idToken : Option Token
  accessToken : Option Token
  refreshToken : Option String
  cognitoCooldownUntil : Option Nat
  deriving DecidableEq, Repr

/-- A row of `integration_credentials`. -/
structure IntegrationCredential where
  credentials : Credentials
  tokenExpiresAt : Option Nat
  deriving DecidableEq, Repr

/-- The row as a caller read it, and the number of refreshes saved by then. -/
structure Copy where
  row : IntegrationCredential
  saves : Nat
  deriving DecidableEq, Repr

/-- Where a call of `get_token` stands. -/
inductive Phase where
  | idle
  | fetched (copy : Copy)
  | waiting
  | locked (copy : Copy)
  | refreshing (copy : Copy)
  | throttled (copy : Copy)
  deriving DecidableEq, Repr

structure Broker where
  now : Nat
  row : IntegrationCredential
  holder : Option Nat
  saves : Nat
  callers : Nat → Phase

inductive BrokerEvent where
  | getCredential (c : Nat)
  | fastPath (c : Nat)
  | selectForUpdate (c : Nat)
  | doubleCheck (c : Nat)
  | refreshed (c : Nat) (idToken refreshToken : String)
  | refreshFailed (c : Nat) (message : String)
  | enterCooldown (c : Nat)
  | abort (c : Nat)
  | wait (d : Nat)
  deriving DecidableEq, Repr

/-! ### The functions of the service -/

/-- `_needs_refresh` -/
def needsRefresh (now : Nat) (credential : IntegrationCredential) : Bool :=
  match credential.credentials.idToken, credential.tokenExpiresAt with
  | some idToken, some expiresAt =>
    idToken.text = "" || decide (expiresAt ≤ now + TOKEN_SAFETY_BUFFER)
  | _, _ => true

/-- Is a cooldown recorded that is not over? -/
def inCooldown (now : Nat) (credential : IntegrationCredential) : Bool :=
  match credential.credentials.cognitoCooldownUntil with
  | some cooldownUntil => decide (now < cooldownUntil)
  | none => false

/-- `_is_cognito_throttle` -/
def isCognitoThrottle (message : String) : Bool :=
  let err := lowerText message
  containsText "password attempts exceeded" err || containsText "too many requests" err
    || containsText "throttling" err

/-- `update_token` with the answer of a refresh at the time `now`. -/
def updateToken (now : Nat) (idToken refreshToken : String) (credential : IntegrationCredential) :
    IntegrationCredential where
  credentials := {
    idToken := some ⟨idToken, now + TOKEN_TTL_SECONDS⟩
    accessToken := some ⟨idToken, now + TOKEN_TTL_SECONDS⟩
    refreshToken :=
      if refreshToken = "" then credential.credentials.refreshToken else some refreshToken
    cognitoCooldownUntil :=
      if credential.credentials.cognitoCooldownUntil.getD 0 = 0 then
        credential.credentials.cognitoCooldownUntil
      else
        none }
  tokenExpiresAt := some (now + TOKEN_TTL_SECONDS)

/-- `_enter_cooldown`: the credentials of the copy are saved, the other column is not. -/
def enterCooldown (now : Nat) (credential row : IntegrationCredential) : IntegrationCredential :=
  { row with
    credentials :=
      { credential.credentials with
        cognitoCooldownUntil := some (now + COGNITO_COOLDOWN_SECONDS) } }

/-! ### One step -/

/-- The caller goes on to another phase. -/
def Broker.move (s : Broker) (c : Nat) (p : Phase) : Broker :=
  { s with callers := Function.update s.callers c p }

/-- The end of the caller's transaction. -/
def Broker.release (s : Broker) (c : Nat) : Broker :=
  if s.holder = some c then { s with holder := none } else s

def tokenStep (s : Broker) : BrokerEvent → Broker
  | .getCredential c =>
    match s.callers c with
    | .idle => s.move c (.fetched ⟨s.row, s.saves⟩)
    | _ => s
  | .fastPath c =>
    match s.callers c with
    | .fetched copy => s.move c (if needsRefresh s.now copy.row then .waiting else .idle)
    | _ => s
  | .selectForUpdate c =>
    match s.callers c, s.holder with
    | .waiting, none => { s.move c (.locked ⟨s.row, s.saves⟩) with holder := some c }
    | _, _ => s
  | .doubleCheck c =>
    match s.callers c with
    | .locked copy =>
      if needsRefresh s.now copy.row && !inCooldown s.now copy.row then
        s.move c (.refreshing copy)
      else
        -- the token of the copy, or `CognitoThrottled`
        (s.release c).move c .idle
    | _ => s
  | .refreshed c idToken refreshToken =>
    match s.callers c with
    | .refreshing copy =>
      { (s.release c).move c .idle with
        row := updateToken s.now idToken refreshToken copy.row
        saves := s.saves + 1 }
    | _ => s
  | .refreshFailed c message =>
    match s.callers c with
    | .refreshing copy =>
      (s.release c).move c (if isCognitoThrottle message then .throttled copy else .idle)
    | _ => s
  | .enterCooldown c =>
    -- the update waits as long as another caller holds the row
    match s.callers c, s.holder with
    | .throttled copy, none =>
      { s.move c .idle with row := enterCooldown s.now copy.row s.row }
    | _, _ => s
  -- any other exception, or the end of the process
  | .abort c => (s.release c).move c .idle
  | .wait d => { s with now := s.now + d }

/-- The token a step returns to its caller. -/
def returned (s : Broker) : BrokerEvent → Option Token
  | .fastPath c =>
    match s.callers c with
    | .fetched copy => if needsRefresh s.now copy.row then none else copy.row.credentials.idToken
    | _ => none
  | .doubleCheck c =>
    match s.callers c with
    | .locked copy => if needsRefresh s.now copy.row then none else copy.row.credentials.idToken
    | _ => none
  | .refreshed c idToken refreshToken =>
    match s.callers c with
    | .refreshing copy => (updateToken s.now idToken refreshToken copy.row).credentials.idToken
    | _ => none
  | _ => none

/-- The broker before the first call.  The row says how long its token is valid. -/
def Broker.init (now : Nat) (idToken accessToken refreshToken : Option String)
    (tokenExpiresAt cooldownUntil : Option Nat) : Broker where
  now := now
  row := {
    credentials := {
      idToken := idToken.map fun text => ⟨text, tokenExpiresAt.getD 0⟩
      accessToken := accessToken.map fun text => ⟨text, tokenExpiresAt.getD 0⟩
      refreshToken := refreshToken
      cognitoCooldownUntil := cooldownUntil }
    tokenExpiresAt := tokenExpiresAt }
  holder := none
  saves := 0
  callers := fun _ => .idle

/-! ### What the broker promises -/

/-- The tokens among the credentials. -/
def Credentials.tokens (credentials : Credentials) : Option Token × Option Token × Option String :=
  (credentials.idToken, credentials.accessToken, credentials.refreshToken)

/-- A token that is returned is valid for longer than the safety buffer. -/
def ReturnsFresh (s : Broker) (e : BrokerEvent) : Prop :=
  ∀ token, returned s e = some token → s.now + TOKEN_SAFETY_BUFFER < token.validUntil

/-- At most one refresh is in progress. -/
def OneRefresh (s : Broker) : Prop :=
  ∀ c d copy copy', s.callers c = .refreshing copy → s.callers d = .refreshing copy' → c = d

/-- No refresh begins in a cooldown that the row records. -/
def OutsideCooldown (s : Broker) (e : BrokerEvent) : Prop :=
  ∀ c copy, s.callers c ≠ .refreshing copy → (tokenStep s e).callers c = .refreshing copy →
    inCooldown s.now s.row = false

/-- Recording a cooldown leaves the tokens that a later refresh saved. -/
def KeepsTokens (s : Broker) : BrokerEvent → Prop
  | .enterCooldown c => ∀ copy, s.callers c = .throttled copy → copy.saves < s.saves →
      (tokenStep s (.enterCooldown c)).row.credentials.tokens = s.row.credentials.tokens
  | _ => True

/-- A cooldown is recorded before another refresh is saved, or that refresh brought nothing new. -/
def TimelyCooldown (s : Broker) : BrokerEvent → Prop
  | .enterCooldown c => ∀ copy, s.callers c = .throttled copy → s.holder = none →
      copy.saves = s.saves ∨ copy.row.credentials.tokens = s.row.credentials.tokens
  | _ => True

/-- The four promises, along a run. -/
structure Safe (s : Broker) (es : List BrokerEvent) : Prop where
  fresh : Along tokenStep ReturnsFresh s es
  oneRefresh : Always tokenStep OneRefresh s es
  cooldown : Along tokenStep OutsideCooldown s es
  keeps : Along tokenStep KeepsTokens s es

/-! ### The invariant -/

/-- The row records how long its token is valid, or nothing. -/
def RecordsExpiry (row : IntegrationCredential) : Prop :=
  ∀ token expiresAt, row.credentials.idToken = some token → row.tokenExpiresAt = some expiresAt →
    expiresAt = token.validUntil

/-- What the phase of a caller says about the row and its lock. -/
def PhaseOk (row : IntegrationCredential) (saves : Nat) (holder : Option Nat) (c : Nat) :
    Phase → Prop
  | .idle | .waiting => holder ≠ some c
  | .fetched copy => holder ≠ some c ∧ RecordsExpiry copy.row
  | .locked copy | .refreshing copy => holder = some c ∧ copy = ⟨row, saves⟩
  | .throttled copy => holder ≠ some c ∧ copy.saves ≤ saves ∧
      (copy.saves = saves → copy.row.credentials.tokens = row.credentials.tokens)

structure Broker.Inv (s : Broker) : Prop where
  expiry : RecordsExpiry s.row
  phases : ∀ c, PhaseOk s.row s.saves s.holder c (s.callers c)

variable {s : Broker} {c d : Nat} {p : Phase} {row row' : IntegrationCredential}
variable {saves saves' : Nat} {holder holder' : Option Nat}

@[simp] theorem move_callers_self (s : Broker) (c : Nat) (p : Phase) :
    (s.move c p).callers c = p := by
  simp [Broker.move]

theorem move_callers_of_ne (s : Broker) (p : Phase) (h : d ≠ c) :
    (s.move c p).callers d = s.callers d := by
  simp [Broker.move, h]

@[simp] theorem move_row (s : Broker) (c : Nat) (p : Phase) : (s.move c p).row = s.row := rfl

@[simp] theorem move_saves (s : Broker) (c : Nat) (p : Phase) :
    (s.move c p).saves = s.saves := rfl

@[simp] theorem move_holder (s : Broker) (c : Nat) (p : Phase) :
    (s.move c p).holder = s.holder := rfl

@[simp] theorem release_row (s : Broker) (c : Nat) : (s.release c).row = s.row := by
  unfold Broker.release
  split <;> rfl

@[simp] theorem release_saves (s : Broker) (c : Nat) : (s.release c).saves = s.saves := by
  unfold Broker.release
  split <;> rfl

@[simp] theorem release_callers (s : Broker) (c : Nat) :
    (s.release c).callers = s.callers := by
  unfold Broker.release
  split <;> rfl

theorem release_holder_ne (s : Broker) (c : Nat) : (s.release c).holder ≠ some c := by
  unfold Broker.release
  split
  · simp
  · assumption

theorem release_holder_iff (s : Broker) (h : d ≠ c) :
    (s.release c).holder = some d ↔ s.holder = some d := by
  unfold Broker.release
  split
  · rename_i hc
    simp [hc, h.symm]
  · exact Iff.rfl

/-- **Frame.**  Who holds the lock changes for others only. -/
theorem PhaseOk.frame (h : PhaseOk row saves holder d p)
    (hholder : holder' = some d ↔ holder = some d) : PhaseOk row saves holder' d p := by
  cases p with
  | idle | waiting => exact fun hd => h (hholder.mp hd)
  | fetched copy => exact ⟨fun hd => h.1 (hholder.mp hd), h.2⟩
  | locked copy | refreshing copy => exact ⟨hholder.mpr h.1, h.2⟩
  | throttled copy => exact ⟨fun hd => h.1 (hholder.mp hd), h.2⟩

/-- **Frame for a change of the row.**  The caller does not hold the lock, and a refresh was
saved or the tokens are the same. -/
theorem PhaseOk.frame_row (h : PhaseOk row saves holder d p) (hfree : holder ≠ some d)
    (hfree' : holder' ≠ some d)
    (hrow : saves < saves' ∨ saves' = saves ∧ row'.credentials.tokens = row.credentials.tokens) :
    PhaseOk row' saves' holder' d p := by
  cases p with
  | idle | waiting => exact hfree'
  | fetched copy => exact ⟨hfree', h.2⟩
  | locked copy | refreshing copy => exact absurd h.1 hfree
  | throttled copy =>
    obtain ⟨-, hle, htokens⟩ := h
    rcases hrow with hlt | ⟨rfl, hsame⟩
    · refine ⟨hfree', by omega, fun heq => ?_⟩
      omega
    · exact ⟨hfree', hle, fun heq => (htokens heq).trans hsame.symm⟩

/-- A step of one caller that leaves the row alone. -/
theorem Broker.Inv.move (hi : s.Inv) (hself : PhaseOk s.row s.saves s.holder c p) :
    (s.move c p).Inv := by
  refine ⟨hi.expiry, fun d => ?_⟩
  by_cases hd : d = c
  · subst hd
    rw [move_callers_self]
    exact hself
  · rw [move_callers_of_ne s p hd]
    exact hi.phases d

/-- The same at the end of the transaction. -/
theorem Broker.Inv.release_move (hi : s.Inv)
    (hself : PhaseOk s.row s.saves (s.release c).holder c p) :
    ((s.release c).move c p).Inv := by
  refine ⟨by simpa using hi.expiry, fun d => ?_⟩
  simp only [move_row, move_saves, move_holder, release_row, release_saves]
  by_cases hd : d = c
  · subst hd
    rw [move_callers_self]
    exact hself
  · rw [move_callers_of_ne _ p hd, release_callers]
    exact (hi.phases d).frame (release_holder_iff s hd)

theorem recordsExpiry_updateToken (now : Nat) (idToken refreshToken : String)
    (row : IntegrationCredential) : RecordsExpiry (updateToken now idToken refreshToken row) := by
  intro token expiresAt htoken hexpires
  simp only [updateToken, Option.some.injEq] at htoken hexpires
  rw [← htoken, ← hexpires]

/-- Under the lock the copy is the row, and nobody else holds the lock. -/
theorem Broker.Inv.in_lock (hi : s.Inv) {copy : Copy}
    (h : s.callers c = .locked copy ∨ s.callers c = .refreshing copy) :
    s.holder = some c ∧ copy = ⟨s.row, s.saves⟩ := by
  have hphase := hi.phases c
  rcases h with h | h <;>
  · rw [h] at hphase
    exact hphase

/-- A cooldown that is recorded in time leaves the tokens alone. -/
theorem tokens_enterCooldown (hi : s.Inv) {copy : Copy} (hc : s.callers c = .throttled copy)
    (htimely : copy.saves = s.saves ∨
      copy.row.credentials.tokens = s.row.credentials.tokens) :
    (enterCooldown s.now copy.row s.row).credentials.tokens = s.row.credentials.tokens := by
  have hphase := hi.phases c
  rw [hc] at hphase
  show copy.row.credentials.tokens = s.row.credentials.tokens
  rcases htimely with heq | hsame
  · exact hphase.2.2 heq
  · exact hsame

/-- **The step lemma.** -/
theorem inv_step (s : Broker) (e : BrokerEvent) (hi : s.Inv) (htimely : TimelyCooldown s e) :
    (tokenStep s e).Inv := by
  cases e with
  | getCredential c =>
    simp only [tokenStep]
    split
    · rename_i hc
      have hphase := hi.phases c
      rw [hc] at hphase
      exact hi.move ⟨hphase, hi.expiry⟩
    · exact hi
  | fastPath c =>
    simp only [tokenStep]
    split
    · rename_i copy hc
      have hphase := hi.phases c
      rw [hc] at hphase
      apply hi.move
      split <;> exact hphase.1
    · exact hi
  | selectForUpdate c =>
    simp only [tokenStep]
    split
    · rename_i hc hfree
      refine ⟨hi.expiry, fun d => ?_⟩
      show PhaseOk s.row s.saves (some c) d ((s.move c _).callers d)
      by_cases hd : d = c
      · subst hd
        rw [move_callers_self]
        exact ⟨rfl, rfl⟩
      · rw [move_callers_of_ne s _ hd]
        apply (hi.phases d).frame
        simp [hfree, Ne.symm hd]
    · exact hi
  | doubleCheck c =>
    simp only [tokenStep]
    split
    · rename_i copy hc
      split
      · exact hi.move (hi.in_lock (.inl hc))
      · exact hi.release_move (release_holder_ne s c)
    · exact hi
  | refreshed c idToken refreshToken =>
    simp only [tokenStep]
    split
    · rename_i copy hc
      obtain ⟨hholder, -⟩ := hi.in_lock (.inr hc)
      refine ⟨recordsExpiry_updateToken _ _ _ _, fun d => ?_⟩
      show PhaseOk _ (s.saves + 1) (s.release c).holder d (((s.release c).move c .idle).callers d)
      by_cases hd : d = c
      · subst hd
        rw [move_callers_self]
        exact release_holder_ne s d
      · rw [move_callers_of_ne _ _ hd, release_callers]
        -- nobody else holds the lock
        have hfree : s.holder ≠ some d := by simp [hholder, Ne.symm hd]
        exact (hi.phases d).frame_row hfree (fun h => hfree ((release_holder_iff s hd).mp h))
          (.inl (Nat.lt_succ_self _))
    · exact hi
  | refreshFailed c message =>
    simp only [tokenStep]
    split
    · rename_i copy hc
      obtain ⟨-, rfl⟩ := hi.in_lock (.inr hc)
      apply hi.release_move
      split
      · exact ⟨release_holder_ne s c, Nat.le_refl _, fun _ => rfl⟩
      · exact release_holder_ne s c
    · exact hi
  | enterCooldown c =>
    simp only [tokenStep]
    split
    · rename_i copy hc hfree
      have htokens := tokens_enterCooldown hi hc (htimely copy hc hfree)
      have hid : (enterCooldown s.now copy.row s.row).credentials.idToken
          = s.row.credentials.idToken := congrArg Prod.fst htokens
      refine ⟨fun token expiresAt htoken => hi.expiry token expiresAt (hid ▸ htoken), fun d => ?_⟩
      show PhaseOk (enterCooldown s.now copy.row s.row) s.saves s.holder d
        ((s.move c .idle).callers d)
      by_cases hd : d = c
      · subst hd
        rw [move_callers_self]
        simp [PhaseOk, hfree]
      · rw [move_callers_of_ne s _ hd]
        apply (hi.phases d).frame_row
        · simp [hfree]
        · simp [hfree]
        · exact .inr ⟨rfl, htokens⟩
    · exact hi
  | abort c => exact hi.release_move (release_holder_ne s c)
  | wait d => exact ⟨hi.expiry, hi.phases⟩

theorem inv_init (now : Nat) (idToken accessToken refreshToken : Option String)
    (tokenExpiresAt cooldownUntil : Option Nat) :
    (Broker.init now idToken accessToken refreshToken tokenExpiresAt cooldownUntil).Inv := by
  refine ⟨fun token expiresAt htoken hexpires => ?_, fun c => nofun⟩
  simp only [Broker.init, Option.map_eq_some_iff] at htoken hexpires
  obtain ⟨text, -, rfl⟩ := htoken
  simp [hexpires]

/-! ### What the invariant gives -/

/-- A token that needs no refresh is valid for longer than the safety buffer. -/
theorem validUntil_of_needsRefresh (now : Nat) (hrow : RecordsExpiry row)
    (h : needsRefresh now row = false) {token : Token}
    (htoken : row.credentials.idToken = some token) :
    now + TOKEN_SAFETY_BUFFER < token.validUntil := by
  unfold needsRefresh at h
  split at h
  · rename_i idToken expiresAt hid hexpires
    simp only [Bool.or_eq_false_iff, decide_eq_false_iff_not, Nat.not_le] at h
    rw [← hrow token expiresAt htoken hexpires]
    exact h.2
  · cases h

theorem returnsFresh (s : Broker) (e : BrokerEvent) (hi : s.Inv) : ReturnsFresh s e := by
  intro token h
  have checked : ∀ {row : IntegrationCredential}, RecordsExpiry row →
      (if needsRefresh s.now row then none else row.credentials.idToken) = some token →
      s.now + TOKEN_SAFETY_BUFFER < token.validUntil := by
    intro row hrow h
    split at h
    · cases h
    · rename_i hvalid
      exact validUntil_of_needsRefresh s.now hrow (by simpa using hvalid) h
  cases e with
  | fastPath c =>
    simp only [returned] at h
    split at h
    · rename_i copy hc
      have hphase := hi.phases c
      rw [hc] at hphase
      exact checked hphase.2 h
    · cases h
  | doubleCheck c =>
    simp only [returned] at h
    split at h
    · rename_i copy hc
      obtain ⟨-, rfl⟩ := hi.in_lock (.inl hc)
      exact checked hi.expiry h
    · cases h
  | refreshed c idToken refreshToken =>
    simp only [returned] at h
    split at h
    · cases h
      show s.now + TOKEN_SAFETY_BUFFER < s.now + TOKEN_TTL_SECONDS
      exact Nat.add_lt_add_left (by decide) _
    · cases h
  | getCredential | selectForUpdate | refreshFailed | enterCooldown | abort | wait => cases h

theorem oneRefresh (hi : s.Inv) : OneRefresh s := by
  intro c d copy copy' hc hd
  have hholder := (hi.in_lock (.inr hc)).1
  rw [(hi.in_lock (.inr hd)).1] at hholder
  exact (Option.some.inj hholder).symm

/-- A refresh begins with the double check of the caller. -/
theorem refreshing_begins (s : Broker) (e : BrokerEvent) {copy : Copy}
    (h : s.callers c ≠ .refreshing copy) (h' : (tokenStep s e).callers c = .refreshing copy) :
    s.callers c = .locked copy ∧ inCooldown s.now copy.row = false := by
  -- a step of another caller, or to another phase, begins no refresh
  have moved : ∀ {s' : Broker} {c' : Nat} {p : Phase}, s'.callers = s.callers →
      (s'.move c' p).callers c = .refreshing copy → c' = c ∧ p = .refreshing copy := by
    intro s' c' p hsame hmove
    by_cases hd : c = c'
    · subst hd
      rw [move_callers_self] at hmove
      exact ⟨rfl, hmove⟩
    · rw [move_callers_of_ne s' p hd, hsame] at hmove
      exact absurd hmove h
  cases e with
  | doubleCheck c' =>
    simp only [tokenStep] at h'
    split at h'
    · rename_i copy' hc
      split at h'
      · rename_i hdue
        obtain ⟨rfl, hcopy⟩ := moved rfl h'
        cases hcopy
        exact ⟨hc, by simpa using (Bool.and_eq_true_iff.mp hdue).2⟩
      · exact nomatch (moved (release_callers s c') h').2
    · exact absurd h' h
  | getCredential c' =>
    simp only [tokenStep] at h'
    split at h'
    · exact nomatch (moved rfl h').2
    · exact absurd h' h
  | fastPath c' =>
    simp only [tokenStep] at h'
    split at h'
    · have hp := (moved rfl h').2
      split at hp <;> cases hp
    · exact absurd h' h
  | selectForUpdate c' =>
    simp only [tokenStep] at h'
    split at h'
    · exact nomatch (moved rfl h').2
    · exact absurd h' h
  | refreshed c' idToken refreshToken =>
    simp only [tokenStep] at h'
    split at h'
    · exact nomatch (moved (release_callers s c') h').2
    · exact absurd h' h
  | refreshFailed c' message =>
    simp only [tokenStep] at h'
    split at h'
    · have hp := (moved (release_callers s c') h').2
      split at hp <;> cases hp
    · exact absurd h' h
  | enterCooldown c' =>
    simp only [tokenStep] at h'
    split at h'
    · exact nomatch (moved rfl h').2
    · exact absurd h' h
  | abort c' => exact nomatch (moved (release_callers s c') h').2
  | wait d => exact absurd h' h

theorem outsideCooldown (s : Broker) (e : BrokerEvent) (hi : s.Inv) : OutsideCooldown s e := by
  intro c copy h h'
  obtain ⟨hc, hcooldown⟩ := refreshing_begins s e h h'
  obtain ⟨-, rfl⟩ := hi.in_lock (.inl hc)
  exact hcooldown

/-- **Exactly the cooldowns that are recorded in time keep the tokens.** -/
theorem keepsTokens_iff (s : Broker) (e : BrokerEvent) (hi : s.Inv) :
    KeepsTokens s e ↔ TimelyCooldown s e := by
  cases e with
  | enterCooldown c =>
    constructor
    · intro h copy hc hfree
      have hphase := hi.phases c
      rw [hc] at hphase
      rcases Nat.eq_or_lt_of_le hphase.2.1 with heq | hlt
      · exact .inl heq
      · have hkept := h copy hc hlt
        simp only [tokenStep, hc, hfree] at hkept
        exact .inr hkept
    · intro h copy hc _
      simp only [tokenStep, hc]
      split
      · rename_i copy' hcopy hfree
        cases hcopy
        exact tokens_enterCooldown hi hc (h copy hc hfree)
      · rfl
  | getCredential | fastPath | selectForUpdate | doubleCheck | refreshed | refreshFailed | abort
  | wait => exact Iff.rfl

/-- **The broker is safe on exactly the runs whose cooldowns are recorded in time**: whatever the
row at the start, the callers and the answers. -/
theorem token_broker_safe_iff (now : Nat) (idToken accessToken refreshToken : Option String)
    (tokenExpiresAt cooldownUntil : Option Nat) (es : List BrokerEvent) :
    Safe (Broker.init now idToken accessToken refreshToken tokenExpiresAt cooldownUntil) es ↔
      Along tokenStep TimelyCooldown
        (Broker.init now idToken accessToken refreshToken tokenExpiresAt cooldownUntil) es := by
  have hinit := inv_init now idToken accessToken refreshToken tokenExpiresAt cooldownUntil
  have hkeeps := along_iff_along inv_step keepsTokens_iff hinit es
  constructor
  · exact fun h => hkeeps.mp h.keeps
  · intro h
    exact {
      fresh := along_of_along inv_step (fun s e hi _ => returnsFresh s e hi) hinit h
      oneRefresh := (always_of_along inv_step hinit h).mono fun _ => oneRefresh
      cooldown := along_of_along inv_step (fun s e hi _ => outsideCooldown s e hi) hinit h
      keeps := hkeeps.mpr h }

/-- Caller 1 is throttled, caller 2 refreshes, and caller 1 records its cooldown after that. -/
def lateCooldown : List BrokerEvent :=
  [.getCredential 1, .fastPath 1, .getCredential 2, .fastPath 2, .selectForUpdate 1,
    .doubleCheck 1, .refreshFailed 1 "Password attempts exceeded", .selectForUpdate 2,
    .doubleCheck 2, .refreshed 2 "id-2" "refresh-2", .enterCooldown 1]

/-- The cooldown takes the new tokens back. -/
theorem token_broker_safe_fails :
    ¬∀ es : List BrokerEvent,
      Safe (Broker.init 0 (some "id-1") (some "id-1") (some "refresh-1") (some 0) none) es := by
  intro h
  have hkeeps := (h lateCooldown).keeps
  obtain ⟨-, -, -, -, -, -, -, -, -, -, hlast, -⟩ := hkeeps
  have hlost := hlast _ rfl (by decide)
  revert hlost
  decide

end TokenBroker

end Sda.Integrations
