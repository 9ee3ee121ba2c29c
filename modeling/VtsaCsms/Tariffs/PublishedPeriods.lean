import VtsaCsms.Foundation.Runs
import VtsaCsms.Tariffs.TariffVersions

/-!
# Published periods

The periods of the published versions of one tariff and scope, over any run of the two
services that publish. A period without an end is compared as if it ended with the year 9999.
-/
namespace VtsaCsms.Tariffs
open Foundation Foundation.Action Assets TariffManagementService PortalPricing

/-! ### Periods -/

/-- `[effective_from, effective_until)`: the end is the version's own or its ending. -/
structure InForce (s : Catalog) (key : Nat) (v : VersionRow) (t : Instant) : Prop where
  start : v.effectiveFrom ≤ t
  until' : ∀ e, v.effectiveTo = some e → t < e
  ended : ∀ e, s.endings.get? key = some e → t < e

/-- A published version. -/
def Publishes (s : Catalog) (key : Nat) (v : VersionRow) : Prop :=
  s.versions.get? key = some v ∧ v.status = .published

/-- Of the same tariff and assignment scope. -/
def Rivals (v other : VersionRow) : Prop := other.tariffId = v.tariffId ∧ sameScope v other = true

theorem rivals_iff (v other : VersionRow) : Rivals v other ↔ other.tariffId = v.tariffId ∧
    other.operatorId = v.operatorId ∧ other.siteId = v.siteId ∧ other.connectorId = v.connectorId := by
  unfold Rivals sameScope
  simp only [Bool.and_eq_true, decide_eq_true_eq, and_assoc]

variable {v : VersionRow} {s s' : Catalog} {key tariffId : Nat}

theorem Rivals.symm {other : VersionRow} (rivals : Rivals v other) : Rivals other v := by
  rw [rivals_iff] at rivals ⊢
  exact ⟨rivals.1.symm, rivals.2.1.symm, rivals.2.2.1.symm, rivals.2.2.2.symm⟩

def Disjoint (s : Catalog) : Prop :=
  ∀ key key' v v', Publishes s key v → Publishes s key' v' → Rivals v v' → key ≠ key' →
    ∀ t, ¬ (InForce s key v t ∧ InForce s key' v' t)

/-- A version as the selector reads it. -/
def listed (s : Catalog) (key : Nat) (v : VersionRow) : TariffVersion where
  id := keyText key
  version := v.version
  published := v.status = .published
  endedAt := s.endings.get? key
  effectiveFrom := v.effectiveFrom
  effectiveTo := v.effectiveTo
  operatorId := v.operatorId
  siteId := v.siteId
  connectorId := v.connectorId
  currency := ((s.tariffs.get? v.tariffId).map Tariff.currency).getD ""
  timezone := v.timezone
  timeBasis := v.timeBasis
  taxTreatment := v.taxTreatment
  taxRateBasisPoints := v.taxRateBasisPoints
  minimumFeeMinor := v.minimumFeeMinor
  maximumFeeMinor := v.maximumFeeMinor
  components := v.components
  discounts := v.discounts

/-- Whatever the connector and the instant, the selector finds one version of a tariff and
scope at most. -/
def SelectedOnce (s : Catalog) : Prop :=
  ∀ (connector : ConnectorSnapshot) (at' : Instant) key key' v v', s.versions.get? key = some v →
    s.versions.get? key' = some v' → Rivals v v' →
    TariffSelector.applies connector at'.toSecond (listed s key v) = true →
    TariffSelector.applies connector at'.toSecond (listed s key' v') = true → key = key'

theorem inForce_of_applies {connector : ConnectorSnapshot} {at' : Instant}
    (applies : TariffSelector.applies connector at' (listed s key v) = true) :
    v.status = .published ∧ InForce s key v at' := by
  unfold TariffSelector.applies listed at applies
  simp only [Bool.and_eq_true, decide_eq_true_eq] at applies
  obtain ⟨⟨⟨⟨⟨⟨published, ended⟩, start⟩, until'⟩, -⟩, -⟩, -⟩ := applies
  refine ⟨published, start, ?_, ?_⟩
  · intro e some'
    rw [some', Option.all_some] at until'
    exact of_decide_eq_true until'
  · intro e some'
    rw [some', Option.all_some] at ended
    exact of_decide_eq_true ended

theorem Disjoint.selectedOnce (disjoint : Disjoint s) : SelectedOnce s := by
  intro connector at' key key' v v' stored stored' rivals applies applies'
  obtain ⟨published, inForce⟩ := inForce_of_applies applies
  obtain ⟨published', inForce'⟩ := inForce_of_applies applies'
  by_contra differ
  exact disjoint key key' v v' ⟨stored, published⟩ ⟨stored', published'⟩ rivals differ _ ⟨inForce, inForce'⟩

/-- Only published versions are ended. -/
def EndsPublished (s : Catalog) : Prop :=
  ∀ key e, s.endings.get? key = some e → ∃ v, Publishes s key v

/-! ### Publishing one version -/

/-- What the query does not see: an open-ended version against a later one from the end of
time on. -/
def Missed (v : VersionRow) (s : Catalog) : Prop :=
  v.effectiveTo = none ∧ ∃ key other, Publishes s key other ∧ Rivals v other ∧
    endOfTime ≤ other.effectiveFrom ∧ ∃ t, v.effectiveFrom ≤ t ∧ InForce s key other t

/-- Against a version the query does not report, a draft is in force at the same time exactly
from the end of time on. -/
theorem unseen_iff (unseen : overlaps v s = false)
    {other : VersionRow} (published : Publishes s key other) (rivals : Rivals v other) (t : Instant)
    (start : v.effectiveFrom ≤ t) (until' : ∀ e, v.effectiveTo = some e → t < e)
    (inForce : InForce s key other t) : v.effectiveTo = none ∧ endOfTime ≤ other.effectiveFrom := by
  have missed : ¬ overlaps v s = true := by
    rw [unseen]
    exact Bool.false_ne_true
  unfold overlaps at missed
  rw [Table.exists?_iff] at missed
  have notEnded : (s.endings.get? key).any (fun e => decide (e ≤ v.effectiveFrom)) = false := by
    cases ending : s.endings.get? key with
    | none => rfl
    | some e =>
      have later := inForce.ended e ending
      simp only [Option.any_some, decide_eq_false_iff_not, not_le]
      exact lt_of_le_of_lt start later
  have open' : other.effectiveTo.all (fun e => decide (v.effectiveFrom < e)) = true := by
    cases ends : other.effectiveTo with
    | none => rfl
    | some e =>
      have later := inForce.until' e ends
      simp only [Option.all_some, decide_eq_true_eq]
      exact lt_of_le_of_lt start later
  have late : v.effectiveTo.getD endOfTime ≤ other.effectiveFrom := by
    by_contra early
    refine missed ⟨key, other, published.1, ?_⟩
    simp only [Bool.and_eq_true, decide_eq_true_eq, Bool.not_eq_true']
    exact ⟨⟨⟨⟨⟨rivals.1, published.2⟩, notEnded⟩, rivals.2⟩, not_le.mp early⟩, open'⟩
  cases ends : v.effectiveTo with
  | none =>
    rw [ends] at late
    exact ⟨rfl, late⟩
  | some e =>
    rw [ends] at late
    have before := until' e ends
    have after' := le_trans late inForce.start
    exact absurd (lt_of_lt_of_le before after') (lt_irrefl t)

/-- The rows after a draft is published. -/
structure PublishedRow (key : Nat) (v : VersionRow) (s s' : Catalog) : Prop where
  endings : s'.endings = s.endings
  rows : ∀ k u, s'.versions.get? k = some u ↔
    (k = key ∧ u = { v with status := .published }) ∨ (k ≠ key ∧ s.versions.get? k = some u)

theorem disjoint_published (draft : v.status = .draft)
    (stored : s.versions.get? key = some v) (unseen : overlaps v s = false) (ends : EndsPublished s)
    (row : PublishedRow key v s s') (disjoint : Disjoint s) : Disjoint s' ↔ ¬ Missed v s := by
  have same : ∀ {k u t}, InForce s' k u t ↔ InForce s k u t := by
    intro k u t
    constructor
    · rintro ⟨start, until', ended⟩
      rw [row.endings] at ended
      exact ⟨start, until', ended⟩
    · rintro ⟨start, until', ended⟩
      refine ⟨start, until', ?_⟩
      rw [row.endings]
      exact ended
  have unended : s.endings.get? key = none := by
    cases ending : s.endings.get? key with
    | none => rfl
    | some e =>
      obtain ⟨u, found, published⟩ := ends key e ending
      rw [stored] at found
      cases found
      rw [draft] at published
      contradiction
  have others : ∀ {k u}, Publishes s k u → k ≠ key ∧ Publishes s' k u := by
    rintro k u ⟨found, published⟩
    have differ : k ≠ key := by
      rintro rfl
      rw [stored] at found
      cases found
      rw [draft] at published
      contradiction
    exact ⟨differ, (row.rows k u).mpr (Or.inr ⟨differ, found⟩), published⟩
  constructor
  · rintro after' ⟨openEnded, k, other, published, rivals, -, t, start, inForce⟩
    obtain ⟨differ, there⟩ := others published
    refine after' key k { v with status := .published } other ⟨(row.rows _ _).mpr (Or.inl ⟨rfl, rfl⟩), rfl⟩ there
      rivals (Ne.symm differ) t ⟨⟨start, ?_, ?_⟩, same.mpr inForce⟩
    · intro e some'
      rw [openEnded] at some'
      contradiction
    · intro e some'
      rw [row.endings, unended] at some'
      contradiction
  · intro unmissed
    -- one of the two versions is the new one, or both were there
    have against : ∀ k u, Publishes s k u → Rivals v u → ∀ t,
        InForce s' key { v with status := .published } t → ¬ InForce s k u t := by
      intro k u published rivals t inForce inForce'
      obtain ⟨openEnded, late⟩ := unseen_iff unseen published rivals t inForce.start inForce.until' inForce'
      exact unmissed ⟨openEnded, k, u, published, rivals, late, t, inForce.start, inForce'⟩
    rintro k k' u u' ⟨found, published⟩ ⟨found', published'⟩ rivals differ t ⟨inForce, inForce'⟩
    rcases (row.rows k u).mp found with ⟨rfl, rfl⟩ | ⟨-, earlier⟩
    · rcases (row.rows k' u').mp found' with ⟨rfl, -⟩ | ⟨-, earlier'⟩
      · exact differ rfl
      · exact against k' u' ⟨earlier', published'⟩ rivals t inForce (same.mp inForce')
    · rcases (row.rows k' u').mp found' with ⟨rfl, rfl⟩ | ⟨-, earlier'⟩
      · exact against k u ⟨earlier, published⟩ rivals.symm t inForce' (same.mp inForce)
      · exact disjoint k k' u u' ⟨earlier, published⟩ ⟨earlier', published'⟩ rivals differ t
          ⟨same.mp inForce, same.mp inForce'⟩

/-! ### What the services did -/

def AddsDraft (key : Nat) (row : VersionRow) (s s' : Catalog) : Prop :=
  s' = { s with versions := s.versions.create row } ∧ key = s.versions.nextId ∧ row.status = .draft

theorem addVersion_returns {directory : ScopeDirectory} {data : VersionData}
    (success : Returns (addVersion directory tariffId data) s key s') :
    AddsDraft key (draft tariffId (nextVersion tariffId s) data) s s' := by
  unfold addVersion at success
  simp only [returns_bind, returns_lift, returns_transaction, returns_read, returns_orThrow, returns_throwIf,
    returns_write, returns_pure] at success
  obtain ⟨_, _, ⟨-, rfl⟩, _, _, ⟨-, rfl⟩, _, _, ⟨rfl, rfl⟩, _, _, ⟨-, rfl⟩, _, _, ⟨-, rfl⟩, _, _, ⟨-, rfl⟩, _, _,
    ⟨rfl, rfl⟩, _, _, ⟨rfl, rfl⟩, _, _, rfl, rfl, rfl⟩ := success
  exact ⟨rfl, rfl, rfl⟩

theorem atomic_addVersion (directory : ScopeDirectory) (tariffId : Nat) (data : VersionData) :
    Atomic (addVersion directory tariffId data) := by
  refine (atomic_lift _).bind (fun _ _ _ success => ((returns_lift ..).mp success).2) fun _ => ?_
  refine (atomic_lift _).bind (fun _ _ _ success => ((returns_lift ..).mp success).2) fun _ => ?_
  exact atomic_transaction _

theorem publish_returns (success : Returns (TariffManagementService.publish tariffId key) s () s') :
    ∃ v, s.versions.get? key = some v ∧ v.status = .draft ∧ overlaps v s = false ∧ PublishedRow key v s s' := by
  unfold TariffManagementService.publish at success
  simp only [returns_transaction, returns_bind, returns_read, returns_orThrow, returns_throwIf, returns_write,
    not_not] at success
  obtain ⟨_, _, ⟨rfl, rfl⟩, _, _, ⟨-, rfl⟩, _, _, ⟨rfl, rfl⟩, v, _, ⟨stored, rfl⟩, _, _, ⟨draft, rfl⟩, _, _,
    ⟨-, rfl⟩, overlap, _, ⟨rfl, rfl⟩, _, _, ⟨unseen, rfl⟩, rfl⟩ := success
  refine ⟨v, stored, draft, by simpa using unseen, rfl, ?_⟩
  intro k u
  rw [Table.get?_update]
  by_cases same : k = key
  · subst same
    simp [stored, eq_comm]
  · simp [same]

/-- The listed versions are ended at an instant, and no other ending changes. -/
structure Ended (now : Instant) (previous : List (Nat × VersionRow)) (s s' : Catalog) : Prop where
  versions : s'.versions = s.versions
  listed : ∀ e ∈ previous, s'.endings.get? e.1 = some now.toSecond
  kept : ∀ key e, s.endings.get? key = some e → s'.endings.get? key = some e
  rows : ∀ key e, s'.endings.get? key = some e → s.endings.get? key = some e ∨
    (e = now.toSecond ∧ ∃ v, (key, v) ∈ previous)

theorem endVersions_returns {now : Instant} {previous : List (Nat × VersionRow)}
    (success : Returns (forEach previous (endVersion now)) s () s') : Ended now previous s s' := by
  induction previous generalizing s with
  | nil =>
    rw [forEach, returns_pure] at success
    rw [success.2]
    exact ⟨rfl, by simp, fun _ _ stored => stored, fun _ _ stored => Or.inl stored⟩
  | cons first rest ih =>
    rw [forEach, returns_bind] at success
    obtain ⟨_, s₁, turn, later⟩ := success
    unfold endVersion at turn
    simp only [returns_bind, returns_throwIf, returns_read, returns_write] at turn
    obtain ⟨_, _, ⟨-, rfl⟩, ending, _, ⟨rfl, rfl⟩, _, _, ⟨none', rfl⟩, rfl⟩ := turn
    have unended := not_not.mp none'
    obtain ⟨versions, listed, kept, rows⟩ := ih later
    simp only [Table.get?_put] at kept rows
    refine ⟨versions, ?_, ?_, ?_⟩
    · intro e member
      rcases List.mem_cons.mp member with rfl | tail
      · exact kept _ _ (if_pos rfl)
      · exact listed e tail
    · intro key e stored
      apply kept
      rw [if_neg]
      · exact stored
      · rintro rfl
        rw [unended] at stored
        contradiction
    · intro key e stored
      rcases rows key e stored with before | ⟨now', v, member⟩
      · split at before
        · rename_i same
          subst same
          cases before
          exact Or.inr ⟨rfl, first.2, List.mem_cons_self ..⟩
        · exact Or.inl before
      · exact Or.inr ⟨now', v, List.mem_cons_of_mem _ member⟩

theorem publishPrice_returns {directory : ScopeDirectory} {now : Instant} {input : PricingInput}
    (success : Returns (PortalPricing.publish directory now tariffId input) s () s') :
    ∃ s₁ s₂ key row, Ended now (replaced tariffId input s) s s₁ ∧ AddsDraft key row s₁ s₂ ∧
      row.tariffId = tariffId ∧ row.effectiveFrom = now.toSecond ∧ row.operatorId = none ∧
      row.siteId = input.siteId ∧ row.connectorId = input.connectorId ∧
      Returns (TariffManagementService.publish tariffId key) s₂ () s' := by
  unfold PortalPricing.publish at success
  simp only [returns_bind, returns_lift, returns_transaction, returns_read, returns_orThrow,
    returns_write] at success
  obtain ⟨price, _, ⟨-, rfl⟩, _, _, ⟨rfl, rfl⟩, _, _, ⟨-, rfl⟩, _, _, rfl, versions, _, ⟨rfl, rfl⟩, _, s₁, ended, key,
    s₂, added, published⟩ := success
  have adds := addVersion_returns added
  refine ⟨s₁, s₂, key, _, ?_, adds, rfl, rfl, rfl, rfl, rfl, published⟩
  obtain ⟨versions, listed, kept, rows⟩ := endVersions_returns ended
  exact ⟨versions, listed, kept, rows⟩

/-! ### Runs -/

inductive TariffCall where
  | addVersion (tariffId : Nat) (data : VersionData)
  | publish (versionId : Nat)
  | publishPrice (now : Instant) (tariffId : Nat) (input : PricingInput)

namespace TariffCall

def perform (directory : ScopeDirectory) : TariffCall → Action Catalog Throwable Unit
  | addVersion tariffId data => do
    let _ ← TariffManagementService.addVersion directory tariffId data
  | publish versionId => do
    let found ← read fun s => s.versions.get? versionId
    let version ← orThrow found (.modelNotFound "TariffVersion")
    TariffManagementService.publish version.tariffId versionId
  | publishPrice now tariffId input => PortalPricing.publish directory now tariffId input

def next (directory : ScopeDirectory) (call : TariffCall) (s : Catalog) : Catalog :=
  after (call.perform directory) s

/-- No version that the query misses: an open-ended draft is not published beside a version of
its tariff and scope that starts at the end of time or later, nor does a portal price meet such a
version with an ending of its own. -/
def Foreseen : TariffCall → Catalog → Prop
  | addVersion _ _, _ => True
  | publish versionId, s => ∀ v, s.versions.get? versionId = some v → v.status = .draft →
      overlaps v s = false → ¬ Missed v s
  | publishPrice now tariffId input, s => ¬ ∃ key other e, Publishes s key other ∧ other.tariffId = tariffId ∧
      other.operatorId = none ∧ other.siteId = input.siteId ∧ other.connectorId = input.connectorId ∧
      s.endings.get? key = some e ∧ endOfTime ≤ other.effectiveFrom ∧
      ∃ t, now.toSecond ≤ t ∧ InForce s key other t

end TariffCall
open TariffCall

/-- What every call keeps. -/
structure Kept (s : Catalog) : Prop where
  ends : EndsPublished s
  disjoint : Disjoint s

variable {s s' : Catalog}

theorem Kept.ended {now : Instant} {previous : List (Nat × VersionRow)}
    (ended : Ended now previous s s') (published : ∀ e ∈ previous, Publishes s e.1 e.2) (kept : Kept s) :
    Kept s' := by
  have publishes : ∀ {key v}, Publishes s' key v ↔ Publishes s key v := by
    intro key v
    unfold Publishes
    rw [ended.versions]
  have inForce : ∀ {key v t}, InForce s' key v t → InForce s key v t := fun now' =>
    ⟨now'.start, now'.until', fun e stored => now'.ended e (ended.kept _ e stored)⟩
  refine ⟨?_, ?_⟩
  · intro key e stored
    rcases ended.rows key e stored with before | ⟨-, v, member⟩
    · obtain ⟨v, there⟩ := kept.ends key e before
      exact ⟨v, publishes.mpr there⟩
    · exact ⟨v, publishes.mpr (published _ member)⟩
  · rintro key key' v v' there there' rivals differ t ⟨now', now''⟩
    exact kept.disjoint key key' v v' (publishes.mp there) (publishes.mp there') rivals differ t
      ⟨inForce now', inForce now''⟩

theorem Kept.added {key : Nat} {row : VersionRow} (adds : AddsDraft key row s s') (kept : Kept s) :
    Kept s' ∧ ∀ k v, Publishes s' k v → Publishes s k v := by
  obtain ⟨rfl, -, draft⟩ := adds
  have publishes : ∀ k v, Publishes { s with versions := s.versions.create row } k v → Publishes s k v := by
    rintro k v ⟨stored, published⟩
    obtain ⟨-, rfl⟩ | earlier := Table.get?_create_cases stored
    · rw [draft] at published
      contradiction
    · exact ⟨earlier, published⟩
  refine ⟨⟨?_, ?_⟩, publishes⟩
  · intro k e stored
    obtain ⟨v, there, published⟩ := kept.ends k e stored
    exact ⟨v, Table.get?_create_of_some _ _ there, published⟩
  · rintro k k' v v' there there' rivals differ t ⟨inForce, inForce'⟩
    exact kept.disjoint k k' v v' (publishes _ _ there) (publishes _ _ there') rivals differ t
      ⟨⟨inForce.start, inForce.until', inForce.ended⟩, inForce'.start, inForce'.until', inForce'.ended⟩

theorem Kept.published {key : Nat} {v : VersionRow} (stored : s.versions.get? key = some v)
    (draft : v.status = .draft) (unseen : overlaps v s = false) (row : PublishedRow key v s s')
    (unmissed : ¬ Missed v s) (kept : Kept s) : Kept s' := by
  refine ⟨?_, (disjoint_published draft stored unseen kept.ends row kept.disjoint).mpr unmissed⟩
  intro k e ended
  rw [row.endings] at ended
  obtain ⟨u, there, published⟩ := kept.ends k e ended
  by_cases same : k = key
  · exact ⟨_, (row.rows k _).mpr (Or.inl ⟨same, rfl⟩), rfl⟩
  · exact ⟨u, (row.rows k u).mpr (Or.inr ⟨same, there⟩), published⟩

theorem kept_next (directory : ScopeDirectory) (call : TariffCall) (s : Catalog) (kept : Kept s)
    (foreseen : call.Foreseen s) : Kept (next directory call s) := by
  cases call with
  | addVersion tariffId data =>
    refine after_bind (atomic_addVersion directory tariffId data) kept fun key s' success => ?_
    exact (kept.added (addVersion_returns success)).1
  | publish versionId =>
    unfold next perform
    rw [after_read]
    refine after_bind (atomic_orThrow _ _) kept fun v s' found => ?_
    obtain ⟨stored, rfl⟩ := (returns_orThrow ..).mp found
    refine after_atomic (atomic_transaction _) kept fun _ s'' success => ?_
    obtain ⟨v', stored', draft, unseen, row⟩ := publish_returns success
    rw [stored] at stored'
    cases stored'
    exact kept.published stored draft unseen row (foreseen v stored draft unseen)
  | publishPrice now tariffId input =>
    have atomic : Atomic (PortalPricing.publish directory now tariffId input) :=
      (atomic_lift _).bind (fun _ _ _ success => ((returns_lift ..).mp success).2) fun _ => atomic_transaction _
    refine after_atomic atomic kept fun _ s' success => ?_
    obtain ⟨s₁, s₂, key, row, ended, adds, tariff, start, operator, site, connector, published⟩ :=
      publishPrice_returns success
    have listed : ∀ e ∈ replaced tariffId input s, Publishes s e.1 e.2 := by
      intro e member
      obtain ⟨stored, fits⟩ := (Table.mem_rowsWhere _ _ _ _).mp member
      simp only [Bool.and_eq_true, decide_eq_true_eq] at fits
      exact ⟨stored, fits.1.1.1.1.2⟩
    have kept₁ := kept.ended ended listed
    obtain ⟨kept₂, earlier⟩ := kept₁.added adds
    obtain ⟨v, stored, draft, unseen, publishedRow⟩ := publish_returns published
    obtain ⟨rfl, rfl, -⟩ := adds
    have same : v = row := by
      rw [Table.get?_create_self] at stored
      exact (Option.some.inj stored).symm
    subst same
    refine kept₂.published stored draft unseen publishedRow ?_
    -- a version the query misses was ended before, or has been ended now
    rintro ⟨-, k, other, there, rivals, late, t, began, inForce⟩
    have there₁ := earlier k other there
    have there₀ : Publishes s k other := by
      unfold Publishes at there₁ ⊢
      rw [ended.versions] at there₁
      exact there₁
    have scope := (rivals_iff v other).mp rivals
    rw [tariff, operator, site, connector] at scope
    rw [start] at began
    cases before : s.endings.get? k with
    | some e =>
      refine foreseen ⟨k, other, e, there₀, scope.1, scope.2.1, scope.2.2.1, scope.2.2.2, before, late, t, began, ?_⟩
      exact ⟨inForce.start, inForce.until', fun e' ending => inForce.ended e' (ended.kept k e' ending)⟩
    | none =>
      have member : (k, other) ∈ replaced tariffId input s := by
        refine (Table.mem_rowsWhere _ _ _ _).mpr ⟨there₀.1, ?_⟩
        simp [scope, there₀.2, before]
      have ending := ended.listed (k, other) member
      have later := inForce.ended _ ending
      exact absurd (lt_of_lt_of_le later began) (lt_irrefl t)

/-- The periods are disjoint, and the selector finds one version at most. -/
structure NeverOverlap (s : Catalog) : Prop where
  periods : Disjoint s
  selected : SelectedOnce s

/-- In a run whose calls are all foreseen the published periods of a tariff and a scope never
overlap. -/
theorem published_never_overlap (directory : ScopeDirectory) (tariffs : Table Nat Tariff)
    (calls : List TariffCall)
    (foreseen : Runs.Met (next directory) Foreseen calls ⟨tariffs, Table.empty, Table.empty⟩) :
    Runs.Throughout (next directory) NeverOverlap calls ⟨tariffs, Table.empty, Table.empty⟩ := by
  have start : Kept ⟨tariffs, Table.empty, Table.empty⟩ :=
    ⟨fun _ _ stored => (by cases stored), fun _ _ _ _ there => (by cases there.1)⟩
  have whole : Runs.Throughout (next directory) Kept calls ⟨tariffs, Table.empty, Table.empty⟩ :=
    Runs.throughout_of_met (kept_next directory) calls _ start foreseen
  intro before shorter
  have kept := whole before shorter
  exact ⟨kept.disjoint, kept.disjoint.selectedOnce⟩

/-! A version until 2030, and a portal price after it. -/

def oneSite : ScopeDirectory := ⟨⟨[], []⟩, [], []⟩

def oneTariff : Table Nat Tariff := ⟨[(1, ⟨"Public", "PHP", .draft⟩)], by decide⟩

def perKilowattHour (effectiveFrom : Instant) (effectiveTo : Option Instant) : VersionData where
  effectiveFrom := effectiveFrom
  effectiveTo := effectiveTo
  taxTreatment := .inclusive
  timezone := "Asia/Manila"
  components := [{ dimension := .energy, priceMinor := 2500 }]

def replacedPrice : List TariffCall :=
  [.addVersion 1 (perKilowattHour 1700000000000000 (some 1900000000000000)), .publish 0,
    .publishPrice 1800000000000000 1
      { mode := .energy, price := "27.50", timeUnit := .hour, timezone := "Asia/Manila"
        taxTreatment := .inclusive, taxRateBasisPoints := 1200 }]

theorem replaced_price_never_overlaps :
    Runs.Throughout (next oneSite) NeverOverlap replacedPrice ⟨oneTariff, Table.empty, Table.empty⟩ := by
  refine published_never_overlap oneSite oneTariff replacedPrice ⟨trivial, ?_, ?_, trivial⟩
  · intro v stored _ _ missed
    have bounded : ((next oneSite (.addVersion 1 (perKilowattHour 1700000000000000 (some 1900000000000000)))
        ⟨oneTariff, Table.empty, Table.empty⟩).versions.get? 0).all (fun v => v.effectiveTo.isSome) = true := by
      decide +kernel
    rw [stored, Option.all_some, missed.1] at bounded
    cases bounded
  · rintro ⟨key, other, e, -, -, -, -, -, ending, -⟩
    have none' : (next oneSite (.publish 0) (next oneSite
        (.addVersion 1 (perKilowattHour 1700000000000000 (some 1900000000000000)))
        ⟨oneTariff, Table.empty, Table.empty⟩)).endings.entries = [] := by
      decide +kernel
    unfold Table.get? at ending
    rw [none'] at ending
    cases ending

/-- A version from the end of the year 9999 on, and one from 1970 on. -/
def endless : List TariffCall :=
  [.addVersion 1 (perKilowattHour endOfTime none), .publish 0, .addVersion 1 (perKilowattHour 0 none), .publish 1]

theorem published_overlap : ¬ ∀ (directory : ScopeDirectory) (tariffs : Table Nat Tariff) (calls : List TariffCall),
    Runs.Throughout (next directory) NeverOverlap calls ⟨tariffs, Table.empty, Table.empty⟩ := by
  intro always
  have disjoint := (always oneSite oneTariff endless).last.periods
  have both : ((Runs.reached (next oneSite) endless ⟨oneTariff, Table.empty, Table.empty⟩).versions.get? 0).any
      (fun v => ((Runs.reached (next oneSite) endless
        ⟨oneTariff, Table.empty, Table.empty⟩).versions.get? 1).any fun v' =>
        v.status = .published && v'.status = .published && v'.tariffId = v.tariffId && sameScope v v' &&
          v.effectiveFrom ≤ endOfTime && v'.effectiveFrom ≤ endOfTime && v.effectiveTo = none &&
          v'.effectiveTo = none) = true := by decide +kernel
  have unended : (Runs.reached (next oneSite) endless ⟨oneTariff, Table.empty, Table.empty⟩).endings.entries = [] := by
    decide +kernel
  obtain ⟨v, stored, inner⟩ := (Option.any_eq_true _ _).mp both
  obtain ⟨v', stored', facts⟩ := (Option.any_eq_true _ _).mp inner
  simp only [Bool.and_eq_true, decide_eq_true_eq] at facts
  obtain ⟨⟨⟨⟨⟨⟨⟨published, published'⟩, tariff⟩, scope⟩, start⟩, start'⟩, open'⟩, open''⟩ := facts
  refine disjoint 0 1 v v' ⟨stored, published⟩ ⟨stored', published'⟩ ⟨tariff, scope⟩ (by decide) endOfTime
    ⟨⟨start, ?_, ?_⟩, start', ?_, ?_⟩
  · intro e some'
    rw [open'] at some'
    cases some'
  · intro e ending
    unfold Table.get? at ending
    rw [unended] at ending
    cases ending
  · intro e some'
    rw [open''] at some'
    cases some'
  · intro e ending
    unfold Table.get? at ending
    rw [unended] at ending
    cases ending

end VtsaCsms.Tariffs
