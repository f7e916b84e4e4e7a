/-
Sda/Posting/RelayRetry.lean

The results of a relay batch and the retry under a fresh session (`PARelayPoster.post_batch` of
services/stock/pa_relay_poster.py, `_retry_relay_authorization_failures` of
services/stock/consumer.py).

Results are two dictionaries by index; the second batch numbers its rows anew, and its results are
written back under the indexes of the first.  `Holds r i x` says what both dictionaries of `r` have
at `i`: nothing at all, or one entry in one of them.  Both loops are read through it (`holds_postFrom`,
`holds_mergeFrom`), so that the merge comes down to the positions in the list of retried indexes.

Which rows are retried is read off their error text.  `Shows` says of an answer that its text has the
mark of a 401, in terms of what the relay sent; the text of other answers can have it as well.

Main results: `holds_run` — what the merged results are; `run_merged_iff` — when only rows that were
answered with 401 are posted again.
-/
import Sda.Lib.Chars
import Sda.Lib.Table
import Sda.Posting.Relay

namespace Sda.RelayRetry

/-! ### Answers -/

/-- The fields of a JSON answer that are read when `ok` is not set; a missing or empty text is
falsy. -/
structure RelayBody where
  /-- `str(data["status"])`, where that is truthy. -/
  status : Option String := none
  requestId : String := ""
  requestIdSnake : String := ""
  error : String := ""
  message : String := ""

/-- What posting one row comes to. -/
inductive PostAnswer
  /-- Building the payload or reading the body raised. -/
  | raised (message : String)
  | timeout
  /-- The body is not JSON. -/
  | notJson (httpStatus : Nat)
  | connection (message : String)
  /-- `ok` is set; `str(data.get("offerId", ""))`. -/
  | accepted (offerId : String)
  /-- `ok` is not set. -/
  | refused (httpStatus : Nat) (data : RelayBody)

/-- `a or b` -/
def orText (a b : String) : String := if a = "" then b else a

/-- `data.get("status") or http_status` -/
def upstreamStatus (data : RelayBody) (httpStatus : Nat) : String :=
  data.status.getD (natText httpStatus)

def requestIdOf (data : RelayBody) : String := orText data.requestId data.requestIdSnake

def detailOf (data : RelayBody) : String := stripText (orText data.error data.message)

/-- **`_format_relay_error`** -/
def formatRelayError (data : RelayBody) (httpStatus : Nat) : String :=
  "PA relay upstream error (" ++ "upstream_status=" ++ upstreamStatus data httpStatus ++
    (if requestIdOf data = "" then "" else ", request_id=" ++ requestIdOf data) ++ "): " ++
    orText (detailOf data) "empty upstream response body"

/-- **`_post_one`**, and how `post_batch` files what it returns: an offer id, or an error. -/
def outcome : PostAnswer → Except String String
  | .raised message => .error message
  | .timeout => .error "PA relay timeout"
  | .notJson httpStatus => .error (formatRelayError {} httpStatus)
  | .connection message => .error ("PA relay connection error: " ++ message)
  | .accepted offerId => if offerId = "" then .error "Unknown PA relay error" else .ok offerId
  | .refused httpStatus data => .error (formatRelayError data httpStatus)

/-- The upstream status of a refusal. -/
def PostAnswer.status : PostAnswer → Option String
  | .notJson httpStatus => some (upstreamStatus {} httpStatus)
  | .refused httpStatus data => some (upstreamStatus data httpStatus)
  | .raised _ | .timeout | .connection _ | .accepted _ => none

/-! ### Results -/

/-- `PARelayPostResult` -/
structure PARelayPostResult where
  successful : Table String := Table.empty
  failed : Table String := Table.empty

/-- `result.successful[idx] = …` or `result.failed[idx] = …` -/
def PARelayPostResult.enter (r : PARelayPostResult) (idx : Nat) :
    Except String String → PARelayPostResult
  | .ok offerId => { r with successful := r.successful.put idx offerId }
  | .error error => { r with failed := r.failed.put idx error }

variable {Row : Type*}

/-- The loop of `post_batch` from index `idx` on.  An answer may depend on the row and on its place
in the batch. -/
def postFrom (answer : Nat → Row → PostAnswer) :
    Nat → List Row → PARelayPostResult → PARelayPostResult
  | _, [], result => result
  | idx, row :: rows, result =>
    postFrom answer (idx + 1) rows (result.enter idx (outcome (answer idx row)))

/-- **`post_batch`** -/
def postBatch (answer : Nat → Row → PostAnswer) (rows : List Row) : PARelayPostResult :=
  postFrom answer 0 rows {}

/-- `retry_indexes` -/
def retryIndexes (result : PARelayPostResult) : List Nat :=
  result.failed.keys fun _ error => isRelayAuthorizationFailure error

/-- `[rows[idx] for idx in retry_indexes]` -/
def rowsAt (rows : List Row) (indexes : List Nat) : List Row := indexes.filterMap (rows[·]?)

/-- What the retry of a row puts in place of its first result. -/
def retriedOutcome (result retried : PARelayPostResult) (originalIdx retryIdx : Nat) :
    Except String String :=
  match retried.successful.get? retryIdx with
  | some offerId => .ok offerId
  | none => .error ((retried.failed.get? retryIdx).getD
      ((result.failed.get? originalIdx).getD "PA relay post failed after session refresh"))

/-- The loop over `enumerate(retry_indexes)`. -/
def mergeFrom (result retried : PARelayPostResult) :
    Nat → List Nat → PARelayPostResult → PARelayPostResult
  | _, [], merged => merged
  | retryIdx, originalIdx :: indexes, merged =>
    let popped := { merged with failed := merged.failed.pop originalIdx }
    mergeFrom result retried (retryIdx + 1) indexes
      (popped.enter originalIdx (retriedOutcome result retried originalIdx retryIdx))

/-- **`_retry_relay_authorization_failures`**: `login` says that username, password and store slug
are there, `fresh` that `fetch_relay_token` returns a token. -/
def retryAuthorizationFailures (login fresh : Bool) (second : Nat → Row → PostAnswer)
    (rows : List Row) (result : PARelayPostResult) : PARelayPostResult :=
  if retryIndexes result = [] ∨ login = false then
    result
  else if fresh = false then
    result
  else
    mergeFrom result (postBatch second (rowsAt rows (retryIndexes result))) 0 (retryIndexes result)
      result

/-- Post a batch, and the rejected rows again. -/
def run (login fresh : Bool) (first second : Nat → Row → PostAnswer) (rows : List Row) :
    PARelayPostResult :=
  retryAuthorizationFailures login fresh second rows (postBatch first rows)

/-- The rows of the second batch, by their index in the first. -/
def reposted (login fresh : Bool) (first : Nat → Row → PostAnswer) (rows : List Row) : List Nat :=
  if login = true ∧ fresh = true then retryIndexes (postBatch first rows) else []

/-! ### One entry, or none -/

def errorOf : Except String String → Option String
  | .ok _ => none
  | .error error => some error

/-- All that both dictionaries have at an index. -/
def Holds (r : PARelayPostResult) (i : Nat) (x : Option (Except String String)) : Prop :=
  r.successful.get? i = x.bind Except.toOption ∧ r.failed.get? i = x.bind errorOf

variable {r : PARelayPostResult} {i j : Nat} {x y : Option (Except String String)}

theorem holds_enter_self {o : Except String String} (h : Holds r i none) :
    Holds (r.enter i o) i (some o) := by
  obtain ⟨hsuccessful, hfailed⟩ := h
  cases o with
  | ok offerId =>
    refine ⟨?_, hfailed⟩
    show (r.successful.put i offerId).get? i = _
    rw [Table.get?_put, if_pos rfl]
    rfl
  | error error =>
    refine ⟨hsuccessful, ?_⟩
    show (r.failed.put i error).get? i = _
    rw [Table.get?_put, if_pos rfl]
    rfl

theorem holds_enter_ne {o : Except String String} (hne : j ≠ i) :
    Holds (r.enter i o) j x ↔ Holds r j x := by
  cases o with
  | ok offerId =>
    show (r.successful.put i offerId).get? j = _ ∧ _ ↔ _
    rw [Table.get?_put, if_neg hne]
    rfl
  | error error =>
    show _ ∧ (r.failed.put i error).get? j = _ ↔ _
    rw [Table.get?_put, if_neg hne]
    rfl

theorem holds_empty (i : Nat) : Holds {} i none := ⟨rfl, rfl⟩

/-- The batch leaves one entry for each row of its own, and no other. -/
theorem holds_postFrom (answer : Nat → Row → PostAnswer) {rows : List Row} {idx : Nat}
    (hnone : ∀ j, idx ≤ j → Holds r j none) :
    (∀ j, idx ≤ j → Holds (postFrom answer idx rows r) j
      (rows[j - idx]?.map fun row => outcome (answer j row))) ∧
    ∀ j < idx, ∀ x, Holds (postFrom answer idx rows r) j x ↔ Holds r j x := by
  induction rows generalizing idx r with
  | nil =>
    refine ⟨?_, fun j _ x => Iff.rfl⟩
    intro j hj
    exact hnone j hj
  | cons row rows ih =>
    have hrest : ∀ j, idx + 1 ≤ j → Holds (r.enter idx (outcome (answer idx row))) j none := by
      intro j hj
      exact (holds_enter_ne (by omega)).mpr (hnone j (by omega))
    obtain ⟨hfrom, hbelow⟩ := ih hrest
    constructor
    · intro j hj
      show Holds (postFrom answer (idx + 1) rows (r.enter idx (outcome (answer idx row)))) j _
      rcases Nat.eq_or_lt_of_le hj with rfl | hj
      · rw [Nat.sub_self]
        exact (hbelow idx (Nat.lt_succ_self idx) _).mpr (holds_enter_self (hnone idx le_rfl))
      · have hindex : j - idx = (j - (idx + 1)) + 1 := by omega
        rw [hindex, List.getElem?_cons_succ]
        exact hfrom j hj
    · intro j hj x
      show Holds (postFrom answer (idx + 1) rows (r.enter idx (outcome (answer idx row)))) j x ↔ _
      rw [hbelow j (by omega) x, holds_enter_ne (by omega)]

theorem holds_postBatch (answer : Nat → Row → PostAnswer) (rows : List Row) (i : Nat) :
    Holds (postBatch answer rows) i (rows[i]?.map fun row => outcome (answer i row)) :=
  (holds_postFrom answer fun j _ => holds_empty j).1 i (Nat.zero_le i)

/-! ### The merge -/

/-- A retried row has its retry's result, whatever it is; the text for a missing one is never used. -/
theorem retriedOutcome_eq {result retried : PARelayPostResult} {o : Except String String}
    (h : Holds retried j (some o)) : retriedOutcome result retried i j = o := by
  obtain ⟨hsuccessful, hfailed⟩ := h
  unfold retriedOutcome
  cases o with
  | ok offerId =>
    rw [hsuccessful]
    rfl
  | error error =>
    rw [hsuccessful, hfailed]
    rfl

theorem holds_pop {error : String} (h : Holds r i (some (.error error))) :
    Holds { r with failed := r.failed.pop i } i none := by
  refine ⟨h.1, ?_⟩
  show (r.failed.pop i).get? i = none
  rw [Table.get?_pop, if_pos rfl]

theorem holds_pop_ne (hne : j ≠ i) :
    Holds { r with failed := r.failed.pop i } j x ↔ Holds r j x := by
  show _ ∧ (r.failed.pop i).get? j = _ ↔ _
  rw [Table.get?_pop, if_neg hne]
  rfl

/-- The merge replaces the entries of the indexes it is given, in their order, and touches no
other. -/
theorem holds_mergeFrom (result : PARelayPostResult) {retried : PARelayPostResult} {o : Nat → Except String String}
    {indexes : List Nat} {k : Nat} (hnodup : indexes.Nodup)
    (hfailed : ∀ i ∈ indexes, ∃ error, Holds r i (some (.error error)))
    (hretried : ∀ j < indexes.length, Holds retried (k + j) (some (o (k + j)))) :
    (∀ j i, indexes[j]? = some i →
      Holds (mergeFrom result retried k indexes r) i (some (o (k + j)))) ∧
    ∀ i ∉ indexes, ∀ x, Holds (mergeFrom result retried k indexes r) i x ↔ Holds r i x := by
  induction indexes generalizing k r with
  | nil => exact ⟨nofun, fun i _ x => Iff.rfl⟩
  | cons index indexes ih =>
    obtain ⟨hout, hnodup⟩ := List.nodup_cons.mp hnodup
    obtain ⟨error, herror⟩ := hfailed index List.mem_cons_self
    have hhere : retriedOutcome result retried index k = o k :=
      retriedOutcome_eq (hretried 0 (Nat.succ_pos _))
    have hself : Holds (({ r with failed := r.failed.pop index } : PARelayPostResult).enter index
        (o k)) index (some (o k)) := holds_enter_self (holds_pop herror)
    have hother : ∀ i ≠ index, ∀ x, Holds (({ r with failed := r.failed.pop index } :
        PARelayPostResult).enter index (o k)) i x ↔ Holds r i x := by
      intro i hne x
      rw [holds_enter_ne hne, holds_pop_ne hne]
    have hstep : mergeFrom result retried k (index :: indexes) r =
        mergeFrom result retried (k + 1) indexes
          (({ r with failed := r.failed.pop index } : PARelayPostResult).enter index (o k)) := by
      rw [← hhere]
      rfl
    have hrest : ∀ i ∈ indexes, ∃ error, Holds (({ r with failed := r.failed.pop index } :
        PARelayPostResult).enter index (o k)) i (some (.error error)) := by
      intro i hi
      obtain ⟨error, herror⟩ := hfailed i (List.mem_cons_of_mem index hi)
      exact ⟨error, (hother i (fun h => hout (h ▸ hi)) _).mpr herror⟩
    have hlater : ∀ j < indexes.length, Holds retried (k + 1 + j) (some (o (k + 1 + j))) := by
      intro j hj
      have := hretried (j + 1) (Nat.succ_lt_succ hj)
      rwa [show k + (j + 1) = k + 1 + j by omega] at this
    obtain ⟨hnext, hkept⟩ := ih hnodup hrest hlater
    rw [hstep]
    constructor
    · intro j i hi
      cases j with
      | zero =>
        obtain rfl : index = i := by simpa using hi
        exact (hkept index hout _).mpr hself
      | succ j =>
        rw [show k + (j + 1) = k + 1 + j by omega]
        exact hnext j i (by simpa using hi)
    · intro i hi x
      obtain ⟨hne, hi⟩ := List.ne_and_not_mem_of_not_mem_cons hi
      rw [hkept i hi x, hother i hne x]

/-! ### The run -/

variable {login fresh : Bool} {first second : Nat → Row → PostAnswer} {rows : List Row}

theorem mem_retryIndexes : i ∈ retryIndexes (postBatch first rows) ↔ ∃ row, rows[i]? = some row ∧
    ∃ error, outcome (first i row) = .error error ∧ isRelayAuthorizationFailure error = true := by
  unfold retryIndexes
  rw [Table.mem_keys, (holds_postBatch first rows i).2]
  cases hrow : rows[i]? with
  | none => simp
  | some row =>
    cases houtcome : outcome (first i row) with
    | ok offerId => simp [houtcome, errorOf]
    | error error => simp [houtcome, errorOf]

theorem mem_reposted : i ∈ reposted login fresh first rows ↔ (login = true ∧ fresh = true) ∧
    i ∈ retryIndexes (postBatch first rows) := by
  unfold reposted
  by_cases h : login = true ∧ fresh = true
  · rw [if_pos h, and_iff_right h]
  · rw [if_neg h]
    exact ⟨nofun, fun hi => absurd hi.1 h⟩

theorem nodup_reposted : (reposted login fresh first rows).Nodup := by
  unfold reposted
  by_cases h : login = true ∧ fresh = true
  · rw [if_pos h]
    exact Table.select_keys_nodup
  · rw [if_neg h]
    exact List.nodup_nil

/-- A row of the second batch is the row of the first under the index at its place. -/
theorem getElem?_rowsAt {indexes : List Nat} (h : ∀ i ∈ indexes, ∃ row, rows[i]? = some row)
    (k : Nat) : (rowsAt rows indexes)[k]? = indexes[k]?.bind (rows[·]?) := by
  induction indexes generalizing k with
  | nil => rfl
  | cons i indexes ih =>
    obtain ⟨row, hrow⟩ := h i List.mem_cons_self
    have hcons : rowsAt rows (i :: indexes) = row :: rowsAt rows indexes :=
      List.filterMap_cons_some hrow
    rw [hcons]
    cases k with
    | zero =>
      show some row = rows[i]?
      rw [hrow]
    | succ k => exact ih (fun i hi => h i (List.mem_cons_of_mem _ hi)) k

/-- Without a retry the results of the first batch stand. -/
theorem run_eq : run login fresh first second rows =
    if reposted login fresh first rows = [] then postBatch first rows
    else mergeFrom (postBatch first rows)
      (postBatch second (rowsAt rows (reposted login fresh first rows))) 0
      (reposted login fresh first rows) (postBatch first rows) := by
  unfold run retryAuthorizationFailures reposted
  cases login with
  | false => simp
  | true =>
    cases fresh with
    | false => simp
    | true =>
      show (if _ ∨ true = false then _ else _) = if retryIndexes (postBatch first rows) = [] then _ else _
      by_cases hnone : retryIndexes (postBatch first rows) = []
      · rw [if_pos (Or.inl hnone), if_pos hnone]
      · rw [if_neg (by simp [hnone]), if_neg hnone]
        rfl

/-- **The merged results.**  A row posted again has the answer to its second post, every other row
the answer to its first, and nothing else is in them. -/
theorem holds_run (login fresh : Bool) (first second : Nat → Row → PostAnswer) (rows : List Row) :
    (∀ k i row, (reposted login fresh first rows)[k]? = some i → rows[i]? = some row →
      Holds (run login fresh first second rows) i (some (outcome (second k row)))) ∧
    ∀ i ∉ reposted login fresh first rows, Holds (run login fresh first second rows) i
      (rows[i]?.map fun row => outcome (first i row)) := by
  rw [run_eq]
  by_cases hnone : reposted login fresh first rows = []
  · rw [if_pos hnone, hnone]
    exact ⟨nofun, fun i _ => holds_postBatch first rows i⟩
  rw [if_neg hnone]
  have hmem : ∀ i ∈ reposted login fresh first rows, ∃ row, rows[i]? = some row ∧
      ∃ error, outcome (first i row) = .error error := by
    intro i hi
    obtain ⟨row, hrow, error, herror, -⟩ := mem_retryIndexes.mp (mem_reposted.mp hi).2
    exact ⟨row, hrow, error, herror⟩
  have hfailed : ∀ i ∈ reposted login fresh first rows,
      ∃ error, Holds (postBatch first rows) i (some (.error error)) := by
    intro i hi
    obtain ⟨row, hrow, error, herror⟩ := hmem i hi
    have h := holds_postBatch first rows i
    rw [hrow, Option.map_some, herror] at h
    exact ⟨error, h⟩
  -- the row at a place of the second batch, and what became of it there
  have hplace : ∀ k, (rowsAt rows (reposted login fresh first rows))[k]? =
      (reposted login fresh first rows)[k]?.bind (rows[·]?) :=
    getElem?_rowsAt fun i hi => (hmem i hi).imp fun row h => h.1
  let o : Nat → Except String String := fun k =>
    ((rowsAt rows (reposted login fresh first rows))[k]?.map fun row => outcome (second k row)).getD
      (.ok "")
  have hretried : ∀ j < (reposted login fresh first rows).length,
      Holds (postBatch second (rowsAt rows (reposted login fresh first rows))) (0 + j)
        (some (o (0 + j))) := by
    intro j hj
    rw [Nat.zero_add]
    obtain ⟨row, hrow, -⟩ := hmem _ (List.getElem_mem hj)
    have hat : (rowsAt rows (reposted login fresh first rows))[j]? = some row := by
      rw [hplace, List.getElem?_eq_getElem hj]
      exact hrow
    have h := holds_postBatch second (rowsAt rows (reposted login fresh first rows)) j
    have ho : o j = outcome (second j row) := by
      show (Option.map _ ((rowsAt rows (reposted login fresh first rows))[j]?)).getD _ = _
      rw [hat]
      rfl
    rw [hat, Option.map_some] at h
    rw [ho]
    exact h
  obtain ⟨hself, hother⟩ := holds_mergeFrom (postBatch first rows) nodup_reposted hfailed hretried
  constructor
  · intro k i row hk hrow
    have h := hself k i hk
    have ho : o (0 + k) = outcome (second k row) := by
      rw [Nat.zero_add]
      show (Option.map _ ((rowsAt rows (reposted login fresh first rows))[k]?)).getD _ = _
      rw [hplace, hk, Option.bind_some, hrow]
      rfl
    rw [ho] at h
    exact h
  · intro i hi
    exact (hother i hi _).mpr (holds_postBatch first rows i)

/-! ### The mark of a 401 -/

/-- The mark in a text, however it is written. -/
theorem isRelayAuthorizationFailure_iff {error : String} : isRelayAuthorizationFailure error = true ↔
    "upstream_status=401".toList <:+: error.toList.map Char.toLower := by
  unfold isRelayAuthorizationFailure containsText lowerText
  have htext : (String.ofList (error.toList.map Char.toLower)).toList =
    error.toList.map Char.toLower := String.toList_ofList
  rw [containsChars_iff, htext]

/-- The mark in what a refusal tells: the status begins like it, or a text repeats it. -/
def ShowsRefusal (data : RelayBody) (httpStatus : Nat) : Prop :=
  "401".toList <+: (upstreamStatus data httpStatus).toList.map Char.toLower ∨
    isRelayAuthorizationFailure (upstreamStatus data httpStatus) = true ∨
    isRelayAuthorizationFailure (requestIdOf data) = true ∨
    isRelayAuthorizationFailure (detailOf data) = true

/-- The mark in an answer. -/
def PostAnswer.Shows : PostAnswer → Prop
  | .raised message | .connection message => isRelayAuthorizationFailure message = true
  | .timeout | .accepted _ => False
  | .notJson httpStatus => ShowsRefusal {} httpStatus
  | .refused httpStatus data => ShowsRefusal data httpStatus

theorem mark_status {s : List Char} : "upstream_status=401".toList <:+: "upstream_status=".toList ++ s ↔
    "401".toList <+: s ∨ "upstream_status=401".toList <:+: s := by
  simp [List.infix_cons_iff, List.cons_prefix_cons]

theorem mark_requestId {s : List Char} : "upstream_status=401".toList <:+: "request_id=".toList ++ s ↔
    "upstream_status=401".toList <:+: s := by
  simp [List.infix_cons_iff, List.cons_prefix_cons]

/-- The request id in the text of a refusal. -/
def requestIdPart (data : RelayBody) : List Char :=
  if requestIdOf data = "" then []
  else ',' :: ' ' :: ("request_id=".toList ++ (requestIdOf data).toList.map Char.toLower)

/-- The text of a refusal in small letters, with the characters the mark does not have. -/
theorem toList_formatRelayError (data : RelayBody) (httpStatus : Nat) :
    (formatRelayError data httpStatus).toList.map Char.toLower =
      "pa relay upstream error ".toList ++ '(' :: ("upstream_status=".toList ++
        (upstreamStatus data httpStatus).toList.map Char.toLower ++ requestIdPart data ++
        ')' :: ':' :: ' ' ::
          (orText (detailOf data) "empty upstream response body").toList.map Char.toLower) := by
  have hfront : "PA relay upstream error (".toList.map Char.toLower =
    "pa relay upstream error ".toList ++ ['('] := by decide
  have hstatus : "upstream_status=".toList.map Char.toLower = "upstream_status=".toList := by decide
  have hback : "): ".toList.map Char.toLower = [')', ':', ' '] := by decide
  have hrequest : ", request_id=".toList.map Char.toLower = ',' :: ' ' :: "request_id=".toList := by
    decide
  unfold formatRelayError requestIdPart
  by_cases hid : requestIdOf data = ""
  · rw [if_pos hid, if_pos hid]
    simp only [String.toList_append, List.map_append, hfront, hstatus, hback]
    simp
  · rw [if_neg hid, if_neg hid]
    simp only [String.toList_append, List.map_append, hfront, hstatus, hback, hrequest]
    simp

/-- **The text of a refusal shows the mark where the refusal does.** -/
theorem isRelayAuthorizationFailure_format (data : RelayBody) (httpStatus : Nat) :
    isRelayAuthorizationFailure (formatRelayError data httpStatus) = true ↔
      ShowsRefusal data httpStatus := by
  unfold ShowsRefusal
  simp only [isRelayAuthorizationFailure_iff]
  generalize hmark : "upstream_status=401".toList = mark
  have hopen : '(' ∉ mark := by rw [← hmark]; decide
  have hclose : ')' ∉ mark := by rw [← hmark]; decide
  have hcolon : ':' ∉ mark := by rw [← hmark]; decide
  have hcomma : ',' ∉ mark := by rw [← hmark]; decide
  have hblank : ' ' ∉ mark := by rw [← hmark]; decide
  have hnil : ¬mark <:+: [] := by
    rw [← hmark, List.infix_nil]
    exact List.cons_ne_nil _ _
  have hfront : ¬mark <:+: "pa relay upstream error ".toList := by
    rw [← hmark, ← containsChars_iff]
    decide
  have hempty : ¬mark <:+: "empty upstream response body".toList.map Char.toLower := by
    rw [← hmark, ← containsChars_iff]
    decide
  have hstatus : ∀ t : List Char, mark <:+: "upstream_status=".toList ++ t ↔
      "401".toList <+: t ∨ mark <:+: t := by
    intro t
    rw [← hmark]
    exact mark_status
  have hrequest : ∀ t : List Char, mark <:+: "request_id=".toList ++ t ↔ mark <:+: t := by
    intro t
    rw [← hmark]
    exact mark_requestId
  have hdetail : mark <:+: (orText (detailOf data) "empty upstream response body").toList.map
      Char.toLower ↔ mark <:+: (detailOf data).toList.map Char.toLower := by
    unfold orText
    by_cases hnone : detailOf data = ""
    · rw [if_pos hnone, hnone]
      exact iff_of_false hempty hnil
    · rw [if_neg hnone]
  rw [toList_formatRelayError, ← hdetail]
  generalize (orText (detailOf data) "empty upstream response body").toList.map Char.toLower = detail
  generalize (upstreamStatus data httpStatus).toList.map Char.toLower = status
  have hend : mark <:+: ':' :: ' ' :: detail ↔ mark <:+: detail := by
    rw [show ':' :: ' ' :: detail = [] ++ ':' :: ([] ++ ' ' :: detail) from rfl,
      infix_cut_iff hcolon, infix_cut_iff hblank, or_iff_right hnil, or_iff_right hnil]
  rw [infix_cut_iff hopen, or_iff_right hfront, infix_cut_iff hclose, hend, requestIdPart]
  by_cases hid : requestIdOf data = ""
  · rw [if_pos hid, List.append_nil, hstatus, hid, or_assoc]
    have hno : ¬mark <:+: "".toList.map Char.toLower := hnil
    rw [or_iff_right hno]
  · rw [if_neg hid, infix_cut_iff hcomma, hstatus,
      show ∀ t : List Char, ' ' :: t = [] ++ ' ' :: t from fun _ => rfl, infix_cut_iff hblank,
      or_iff_right hnil, hrequest, or_assoc, or_assoc]

/-- The text of a failed row has the mark where its answer shows it. -/
theorem isRelayAuthorizationFailure_outcome {answer : PostAnswer} :
    (∃ error, outcome answer = .error error ∧ isRelayAuthorizationFailure error = true) ↔
      answer.Shows := by
  have herror : ∀ text, (∃ error, (Except.error text : Except String String) = .error error ∧
      isRelayAuthorizationFailure error = true) ↔ isRelayAuthorizationFailure text = true := by
    intro text
    exact ⟨fun ⟨_, heq, h⟩ => Except.error.inj heq ▸ h, fun h => ⟨text, rfl, h⟩⟩
  cases answer with
  | raised message => exact herror message
  | timeout => exact (herror _).trans (iff_of_false (by decide) id)
  | notJson httpStatus => exact (herror _).trans (isRelayAuthorizationFailure_format _ _)
  | connection message =>
    apply (herror _).trans
    have hblank : ' ' ∉ "upstream_status=401".toList := by decide
    have hfront : ¬"upstream_status=401".toList <:+: "pa relay connection error:".toList := by
      rw [← containsChars_iff]
      decide
    have htext : ("PA relay connection error: " ++ message).toList.map Char.toLower =
        "pa relay connection error:".toList ++ ' ' :: message.toList.map Char.toLower := by
      have hlower : "PA relay connection error: ".toList.map Char.toLower =
        "pa relay connection error:".toList ++ [' '] := by decide
      rw [String.toList_append, List.map_append, hlower, List.append_assoc]
      rfl
    show _ ↔ isRelayAuthorizationFailure message = true
    rw [isRelayAuthorizationFailure_iff, isRelayAuthorizationFailure_iff, htext,
      infix_cut_iff hblank, or_iff_right hfront]
  | accepted offerId =>
    apply iff_of_false _ id
    rintro ⟨error, herr, hmark⟩
    have htext : (if offerId = "" then Except.error "Unknown PA relay error"
      else Except.ok offerId : Except String String) = .error error := herr
    by_cases hid : offerId = ""
    · rw [if_pos hid] at htext
      obtain rfl := Except.error.inj htext
      exact absurd hmark (by decide)
    · rw [if_neg hid] at htext
      cases htext
  | refused httpStatus data => exact (herror _).trans (isRelayAuthorizationFailure_format _ _)

/-! ### Who is posted again -/

/-- What the merge of a batch and its retry is to be; `again` are the rows of the second batch. -/
structure Merged (rows : List Row) (first second : Nat → Row → PostAnswer) (again : List Nat)
    (result : PARelayPostResult) : Prop where
  /-- One entry for each row, and no other. -/
  oneEntry : ∀ i < rows.length, ∃ o, Holds result i (some o)
  noOther : ∀ i, rows.length ≤ i → Holds result i none
  /-- No row that succeeded is posted again, and none twice. -/
  notSucceeded : ∀ i ∈ again, ∃ row, rows[i]? = some row ∧ ∃ error, outcome (first i row) = .error error
  once : again.Nodup
  only401 : ∀ i ∈ again, ∃ row, rows[i]? = some row ∧ (first i row).status = some "401"
  /-- The second answer, if there is one, and the first otherwise. -/
  retried : ∀ k i row, again[k]? = some i → rows[i]? = some row →
    Holds result i (some (outcome (second k row)))
  kept : ∀ i ∉ again, ∀ row, rows[i]? = some row → Holds result i (some (outcome (first i row)))

/-- Of the second batch are the rows whose first answers show the mark. -/
theorem mem_reposted_iff : i ∈ reposted login fresh first rows ↔ (login = true ∧ fresh = true) ∧
    ∃ row, rows[i]? = some row ∧ (first i row).Shows := by
  rw [mem_reposted, mem_retryIndexes]
  simp only [isRelayAuthorizationFailure_outcome]

/-- **The merge is right, and only rows that were answered with 401 are posted again if and only if
no other answer shows the mark.** -/
theorem run_merged_iff (login fresh : Bool) (first second : Nat → Row → PostAnswer)
    (rows : List Row) :
    Merged rows first second (reposted login fresh first rows) (run login fresh first second rows) ↔
      (login = true ∧ fresh = true → ∀ i row, rows[i]? = some row → (first i row).Shows →
        (first i row).status = some "401") := by
  constructor
  · intro h hlogin i row hrow hshows
    obtain ⟨row', hrow', hstatus⟩ := h.only401 i (mem_reposted_iff.mpr ⟨hlogin, row, hrow, hshows⟩)
    obtain rfl := Option.some.inj (hrow.symm.trans hrow')
    exact hstatus
  · intro h
    obtain ⟨hself, hother⟩ := holds_run login fresh first second rows
    have hagain : ∀ i ∈ reposted login fresh first rows, ∃ row, rows[i]? = some row ∧
        (first i row).Shows ∧ (login = true ∧ fresh = true) := by
      intro i hi
      obtain ⟨hlogin, row, hrow, hshows⟩ := mem_reposted_iff.mp hi
      exact ⟨row, hrow, hshows, hlogin⟩
    have hkept : ∀ i ∉ reposted login fresh first rows, ∀ row, rows[i]? = some row →
        Holds (run login fresh first second rows) i (some (outcome (first i row))) := by
      intro i hi row hrow
      have := hother i hi
      rwa [hrow] at this
    constructor
    case oneEntry =>
      intro i hi
      have hrow : rows[i]? = some rows[i] := List.getElem?_eq_getElem hi
      by_cases hmem : i ∈ reposted login fresh first rows
      · obtain ⟨k, hk⟩ := List.getElem?_of_mem hmem
        exact ⟨_, hself k i _ hk hrow⟩
      · exact ⟨_, hkept i hmem _ hrow⟩
    case noOther =>
      intro i hi
      have hrow : rows[i]? = none := List.getElem?_eq_none hi
      have hout : i ∉ reposted login fresh first rows := by
        intro hmem
        obtain ⟨row, hsome, -⟩ := hagain i hmem
        exact absurd (hrow.symm.trans hsome) (Option.some_ne_none row).symm
      have := hother i hout
      rwa [hrow] at this
    case notSucceeded =>
      intro i hi
      obtain ⟨row, hrow, hshows, -⟩ := hagain i hi
      obtain ⟨error, herror, -⟩ := isRelayAuthorizationFailure_outcome.mpr hshows
      exact ⟨row, hrow, error, herror⟩
    case once => exact nodup_reposted
    case only401 =>
      intro i hi
      obtain ⟨row, hrow, hshows, hlogin⟩ := hagain i hi
      exact ⟨row, hrow, h hlogin i row hrow hshows⟩
    case retried => exact hself
    case kept => exact hkept

/-- An answer of the gateway that repeats what its first attempt was told. -/
def gatewayAnswer : PostAnswer :=
  .refused 200 { status := some "502", error := "no answer after upstream_status=401" }

/-- Its row is posted again, although its outcome is not known. -/
theorem gateway_reposted : ¬Merged [()] (fun _ _ => gatewayAnswer) (fun _ _ => .accepted "77")
    (reposted true true (fun _ _ => gatewayAnswer) [()])
    (run true true (fun _ _ => gatewayAnswer) (fun _ _ => .accepted "77") [()]) := by
  intro h
  have hshows : gatewayAnswer.Shows := by
    apply isRelayAuthorizationFailure_outcome.mp
    exact ⟨_, rfl, by decide⟩
  have hmem : 0 ∈ reposted true true (fun _ (_ : Unit) => gatewayAnswer) [()] :=
    mem_reposted_iff.mpr ⟨⟨rfl, rfl⟩, (), rfl, hshows⟩
  obtain ⟨row, -, hstatus⟩ := h.only401 0 hmem
  exact absurd hstatus (by decide)

end Sda.RelayRetry
