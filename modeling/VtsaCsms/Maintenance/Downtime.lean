import VtsaCsms.Maintenance.WorkOrderHistory

/-!
# Downtime

A work order has one downtime period for its asset, and finds that one when it restricts the asset again. While none
is taken up after its verification, the period is open as long as the asset is restricted and lasts as long as the
restriction; one that is taken up restricts the asset without an open period.
-/
namespace VtsaCsms.Maintenance
open Foundation Foundation.Action Foundation.Spans EloquentAssetMaintenanceContract WorkOrderWorkflow

def actions (workOrderId : Nat) (s : WorkOrderBooks) : List AssetAction :=
  (s.assetActions.rowsWhere fun _ a => decide (a.workOrderId = workOrderId)).map Prod.snd

def periods (workOrderId : Nat) (s : WorkOrderBooks) : List DowntimePeriod :=
  (s.downtimePeriods.rowsWhere fun _ p => decide (p.workOrderId = workOrderId)).map Prod.snd

def Restricts (a : AssetAction) : Prop := a.action = .restrict
  deriving Decidable

def Frees (a : AssetAction) : Prop := a.action = .returnToService
  deriving Decidable

/-- The seconds from a restriction to the return that follows it. -/
def restrictedFor (first last : AssetAction) : Int := first.requestedAt.diffInSeconds last.requestedAt

/-- There is an open period exactly while the asset is restricted by the work order, and the closed ones are as long
as the restrictions that are over. -/
def DowntimeAddsUp (s : WorkOrderBooks) : Prop :=
  ∀ workOrderId w, s.workOrders.get? workOrderId = some w → w.assetRestrictionRequired = true →
    ((∃ p ∈ periods workOrderId s, p.endedAt = none) ↔ Ongoing Restricts Frees (actions workOrderId s)) ∧
      (((periods workOrderId s).filter fun p => p.endedAt.isSome).map fun p => p.durationSeconds.getD 0).sum =
        total Restricts Frees restrictedFor (actions workOrderId s)

/-- A work order that restricts its asset is taken up again after its verification. -/
def TakesUpVerified : WorkOrderCall → WorkOrderBooks → Prop
  | .transition call workOrderId target _ _, s =>
    target = .inProgress ∧ ∃ w, MayMove call workOrderId w target s ∧ w.assetRestrictionRequired = true ∧
      w.state = .verified
  | _, _ => False

/-! ### One period for each restriction -/

def opened (w : WorkOrder) (first : AssetAction) : DowntimePeriod where
  workOrderId := first.workOrderId
  siteId := w.siteId
  asset := w.asset
  reasonCode := first.reasonCode
  startedAt := first.requestedAt

def closed (w : WorkOrder) (span : AssetAction × AssetAction) : DowntimePeriod :=
  { opened w span.1 with
    endedAt := some span.2.requestedAt
    durationSeconds := some (restrictedFor span.1 span.2) }

/-- The states that can be reached without any work. -/
def Unworked : WorkOrderState → Bool
  | .reported | .triaged | .planned | .scheduled | .assigned | .awaitingParts | .awaitingAccess | .awaitingExternal
  | .canceled => true
  | _ => false

/-- The periods of a work order are those of what it did; what it has freed it has verified. -/
structure Accounted (w : WorkOrder) (found : List DowntimePeriod) (did : List AssetAction) : Prop where
  periods : found =
    (completed Restricts Frees did).map (closed w) ++ ((current Restricts Frees did).map (opened w)).toList
  freed : completed Restricts Frees did ≠ [] → w.state = .verified ∨ w.state = .closed
  once : w.state = .verified → completed Restricts Frees did ≠ [] ∧ current Restricts Frees did = none
  worked : current Restricts Frees did = none → completed Restricts Frees did = [] → Unworked w.state = true
  whole : ∀ a ∈ did, a.requestedAt.toSecond = a.requestedAt

/-- Every period and every action is of a work order there is. -/
structure Booked (s : WorkOrderBooks) : Prop where
  keyed : Keyed s
  unknown : ∀ workOrderId, s.workOrders.get? workOrderId = none →
    periods workOrderId s = [] ∧ actions workOrderId s = []
  accounted : ∀ workOrderId w, s.workOrders.get? workOrderId = some w → w.assetRestrictionRequired = true →
    Accounted w (periods workOrderId s) (actions workOrderId s)

theorem Accounted.open_iff {w : WorkOrder} {found : List DowntimePeriod} {did : List AssetAction}
    (accounted : Accounted w found did) :
    (∃ p ∈ found, p.endedAt = none) ↔ Ongoing Restricts Frees did := by
  rw [← current_isSome_iff, accounted.periods]
  constructor
  · rintro ⟨p, mem, unended⟩
    obtain done | still := List.mem_append.mp mem
    · obtain ⟨span, -, rfl⟩ := List.mem_map.mp done
      cases unended
    · cases going : current Restricts Frees did with
      | none =>
        rw [going] at still
        cases still
      | some first => rfl
  · intro goesOn
    obtain ⟨first, found⟩ := Option.isSome_iff_exists.mp goesOn
    exact ⟨opened w first, List.mem_append_right _ (by simp [found]), rfl⟩

theorem Accounted.sum {w : WorkOrder} {found : List DowntimePeriod} {did : List AssetAction}
    (accounted : Accounted w found did) :
    ((found.filter fun p => p.endedAt.isSome).map fun p => p.durationSeconds.getD 0).sum =
      total Restricts Frees restrictedFor did := by
  have ended : ((completed Restricts Frees did).map (closed w)).filter (fun p => p.endedAt.isSome) =
      (completed Restricts Frees did).map (closed w) := by
    rw [List.filter_eq_self]
    intro p mem
    obtain ⟨span, -, rfl⟩ := List.mem_map.mp mem
    rfl
  have unended : ((current Restricts Frees did).map (opened w)).toList.filter (fun p => p.endedAt.isSome) = [] := by
    cases current Restricts Frees did <;> rfl
  rw [accounted.periods, List.filter_append, ended, unended, List.append_nil, List.map_map]
  rfl

theorem Booked.addsUp {s : WorkOrderBooks} (booked : Booked s) : DowntimeAddsUp s := by
  intro workOrderId w stored required
  have accounted := booked.accounted workOrderId w stored required
  exact ⟨accounted.open_iff, accounted.sum⟩

/-! ### The rows of a transition -/

section Rows
variable {s : WorkOrderBooks}

theorem actions_create (a : AssetAction) {s' : WorkOrderBooks} (created : s'.assetActions = s.assetActions.create a)
    (workOrderId : Nat) :
    actions workOrderId s' = actions workOrderId s ++ if a.workOrderId = workOrderId then [a] else [] := by
  unfold actions
  rw [created, Table.rowsWhere_create, List.map_append]
  by_cases own : a.workOrderId = workOrderId
  · simp [own]
  · simp [own]

theorem periods_create (p : DowntimePeriod) {s' : WorkOrderBooks}
    (created : s'.downtimePeriods = s.downtimePeriods.create p) (workOrderId : Nat) :
    periods workOrderId s' = periods workOrderId s ++ if p.workOrderId = workOrderId then [p] else [] := by
  unfold periods
  rw [created, Table.rowsWhere_create, List.map_append]
  by_cases own : p.workOrderId = workOrderId
  · simp [own]
  · simp [own]

theorem mem_periods {workOrderId : Nat} {p : DowntimePeriod} : p ∈ periods workOrderId s ↔
    (∃ key, s.downtimePeriods.get? key = some p) ∧ p.workOrderId = workOrderId := by
  unfold periods
  simp only [List.mem_map, Prod.exists, exists_eq_right, Table.mem_rowsWhere, decide_eq_true_eq]
  exact exists_and_right

def ended (call : Acting) (p : DowntimePeriod) : DowntimePeriod :=
  { p with
    endedAt := some call.now.toSecond
    durationSeconds := some (max 0 (p.startedAt.diffInSeconds call.now)) }

theorem periods_withoutDowntime (call : Acting) (workOrderId other : Nat) :
    periods other (withoutDowntime call workOrderId s) =
      (periods other s).map fun p => if openPeriod workOrderId p = true then ended call p else p := by
  have rows : (s.downtimePeriods.updateWhere (fun _ p => openPeriod workOrderId p) (ended call)).rowsWhere
      (fun _ p => decide (p.workOrderId = other)) = _ := Table.rowsWhere_updateWhere fun _ _ => rfl
  unfold periods
  show List.map Prod.snd ((s.downtimePeriods.updateWhere (fun _ p => openPeriod workOrderId p) (ended call)).rowsWhere
    fun _ p => decide (p.workOrderId = other)) = _
  rw [rows, List.map_map, List.map_map]
  congr 1
  funext e
  show (if openPeriod workOrderId e.2 = true then (e.1, ended call e.2) else e).2 = _
  rw [apply_ite Prod.snd]
  rfl

def actionRow (call : Acting) (workOrderId : Nat) (w : WorkOrder) (action : AssetActionKind) (reasonCode : String) :
    AssetAction where
  workOrderId := workOrderId
  action := action
  asset := w.asset
  reasonCode := reasonCode
  aggregateVersion := w.aggregateVersion
  requestedBy := call.actorId.getD 0
  requestedAt := call.now.toSecond

end Rows

section Accounts
variable {w w' : WorkOrder} {found : List DowntimePeriod} {did : List AssetAction}

theorem accounted_new (state : w.state = .reported) : Accounted w [] [] where
  periods := rfl
  freed := fun some' => absurd rfl some'
  once := fun verified => by rw [state] at verified; cases verified
  worked := fun _ _ => by rw [state]; rfl
  whole := nofun

theorem Accounted.restrict (accounted : Accounted w found did) (call : Acting) (workOrderId : Nat) (reasonCode : String)
    (allowed : w.state.canTransitionTo .inProgress = true) (fresh : w.state ≠ .verified)
    (site : w'.siteId = w.siteId) (asset : w'.asset = w.asset) (state : w'.state = .inProgress) :
    Accounted w' (if found = [] then [opened w (actionRow call workOrderId w .restrict reasonCode)] else found)
      (did ++ [actionRow call workOrderId w .restrict reasonCode]) := by
  have restricts : Restricts (actionRow call workOrderId w .restrict reasonCode) := rfl
  have none' : completed Restricts Frees did = [] := by
    by_contra some'
    obtain verified | closed := accounted.freed some'
    · exact fresh verified
    · rw [closed] at allowed
      cases allowed
  have same : opened w' = opened w := by
    funext first
    unfold opened
    rw [site, asset]
  have periods := accounted.periods
  rw [none', List.map_nil, List.nil_append] at periods
  have done : completed Restricts Frees (did ++ [actionRow call workOrderId w .restrict reasonCode]) = [] := by
    rw [completed_append, none', if_neg fun both => both.1 restricts, List.nil_append]
  have still : current Restricts Frees (did ++ [actionRow call workOrderId w .restrict reasonCode]) =
      (current Restricts Frees did).or (some (actionRow call workOrderId w .restrict reasonCode)) := by
    rw [current_append, if_pos restricts]
  refine ⟨?_, fun some' => absurd done some', fun verified => ?_, fun nobody => ?_, ?_⟩
  · rw [done, still, same, periods, List.map_nil, List.nil_append]
    cases current Restricts Frees did with
    | none => rfl
    | some first => rfl
  · rw [state] at verified
    cases verified
  · rw [still] at nobody
    cases going : current Restricts Frees did with
    | none =>
      rw [going] at nobody
      cases nobody
    | some =>
      rw [going] at nobody
      cases nobody
  · intro a mem
    obtain earlier | last := List.mem_append.mp mem
    · exact accounted.whole a earlier
    · rw [List.mem_singleton.mp last]
      exact Instant.toSecond_toSecond call.now

theorem Accounted.free (accounted : Accounted w found did) (call : Acting) (workOrderId : Nat) (reasonCode : String)
    (own : ∀ a ∈ did, a.workOrderId = workOrderId)
    (inTime : ∀ p ∈ found, openPeriod workOrderId p = true → p.startedAt ≤ call.now.toSecond)
    (site : w'.siteId = w.siteId) (asset : w'.asset = w.asset)
    (state : w'.state = .verified ∨ w'.state = .closed) (worked : Unworked w.state = false) :
    Accounted w' (found.map fun p => if openPeriod workOrderId p = true then ended call p else p)
      (did ++ [actionRow call workOrderId w .returnToService reasonCode]) := by
  have frees : ¬ Restricts (actionRow call workOrderId w .returnToService reasonCode) ∧
      Frees (actionRow call workOrderId w .returnToService reasonCode) := ⟨nofun, rfl⟩
  have same : closed w' = closed w := by
    funext span
    unfold closed opened
    rw [site, asset]
  have still : current Restricts Frees (did ++ [actionRow call workOrderId w .returnToService reasonCode]) = none := by
    rw [current_append, if_neg frees.1, if_pos frees.2]
  have done : completed Restricts Frees (did ++ [actionRow call workOrderId w .returnToService reasonCode]) = _ :=
    completed_append ..
  rw [if_pos frees] at done
  have past (span : AssetAction × AssetAction) : openPeriod workOrderId (closed w span) = false := by
    unfold openPeriod
    exact decide_eq_false fun both => by cases both.2
  have closes (first : AssetAction) (begun : current Restricts Frees did = some first) :
      openPeriod workOrderId (opened w first) = true ∧ ended call (opened w first) =
        closed w (first, actionRow call workOrderId w .returnToService reasonCode) := by
    have mem := current_mem begun
    have open' : openPeriod workOrderId (opened w first) = true := decide_eq_true ⟨own first mem, rfl⟩
    refine ⟨open', ?_⟩
    have late := inTime (opened w first) (by rw [accounted.periods, begun]; simp) open'
    have length := Instant.diffInSeconds_toSecond call.now (accounted.whole first mem)
    have later : 0 ≤ restrictedFor first (actionRow call workOrderId w .returnToService reasonCode) :=
      Int.tdiv_nonneg (Int.sub_nonneg_of_le late) (by decide)
    have seconds : max 0 (first.requestedAt.diffInSeconds call.now) =
        restrictedFor first (actionRow call workOrderId w .returnToService reasonCode) :=
      length.trans (max_eq_right later)
    unfold ended closed
    congr 2
  have freed : completed Restricts Frees (did ++ [actionRow call workOrderId w .returnToService reasonCode]) ≠ [] := by
    intro none'
    rw [done] at none'
    obtain ⟨nothing, nobody⟩ := List.append_eq_nil_iff.mp none'
    have idle : current Restricts Frees did = none := by
      cases going : current Restricts Frees did with
      | none => rfl
      | some first =>
        rw [going] at nobody
        cases nobody
    rw [accounted.worked idle nothing] at worked
    cases worked
  refine ⟨?_, fun _ => state, fun _ => ⟨freed, still⟩, fun _ none' => absurd none' freed, ?_⟩
  · rw [accounted.periods, done, still, same, List.map_append, List.map_map, List.map_append, List.append_assoc]
    congr 1
    · refine List.map_congr_left fun span _ => ?_
      show (if openPeriod workOrderId (closed w span) = true then _ else _) = _
      rw [past, if_neg Bool.false_ne_true]
    · cases begun : current Restricts Frees did with
      | none => rfl
      | some first =>
        obtain ⟨open', closing⟩ := closes first begun
        show [if openPeriod workOrderId (opened w first) = true then _ else _] = [_]
        rw [if_pos open', closing]
  · intro a mem
    obtain earlier | last := List.mem_append.mp mem
    · exact accounted.whole a earlier
    · rw [List.mem_singleton.mp last]
      exact Instant.toSecond_toSecond call.now

theorem Accounted.other (accounted : Accounted w found did) {target : WorkOrderState}
    (allowed : w.state.canTransitionTo target = true) (waits : target ≠ .inProgress) (stays : ¬ PutsBack target)
    (site : w'.siteId = w.siteId) (asset : w'.asset = w.asset) (state : w'.state = target) :
    Accounted w' found did := by
  have none' : completed Restricts Frees did = [] := by
    by_contra some'
    obtain verified | closed := accounted.freed some'
    · rw [verified] at allowed
      revert allowed waits stays
      cases target <;> decide
    · rw [closed] at allowed
      cases allowed
  refine ⟨?_, fun some' => absurd none' some', fun verified => absurd (Or.inl (state.symm.trans verified)) stays,
    fun idle nothing => ?_, accounted.whole⟩
  · rw [accounted.periods, none']
    unfold opened
    rw [site, asset]
    rfl
  · have unworked := accounted.worked idle nothing
    rw [state]
    revert allowed waits stays unworked
    cases w.state <;> cases target <;> decide

theorem Accounted.plain (accounted : Accounted w found did) (same : Maintenance.plain w' = Maintenance.plain w) :
    Accounted w' found did := by
  have site : (Maintenance.plain w').siteId = (Maintenance.plain w).siteId := by rw [same]
  have asset : (Maintenance.plain w').asset = (Maintenance.plain w).asset := by rw [same]
  have state : (Maintenance.plain w').state = (Maintenance.plain w).state := by rw [same]
  change w'.siteId = w.siteId at site
  change w'.asset = w.asset at asset
  change w'.state = w.state at state
  refine ⟨?_, ?_, ?_, ?_, accounted.whole⟩
  · rw [accounted.periods]
    unfold closed opened
    rw [site, asset]
  · rw [state]
    exact accounted.freed
  · rw [state]
    exact accounted.once
  · rw [state]
    exact accounted.worked

end Accounts

/-! ### Transitions -/

section Transition
variable {setup : MaintenanceSetup} {call : Acting} {workOrderId : Nat} {target : WorkOrderState} {reasonCode : String}
  {notes : Option String} {w : WorkOrder} {s : WorkOrderBooks}

theorem mem_actions {a : AssetAction} (mem : a ∈ actions workOrderId s) : a.workOrderId = workOrderId := by
  unfold actions at mem
  obtain ⟨⟨key, row⟩, member, rfl⟩ := List.mem_map.mp mem
  rw [Table.mem_rowsWhere] at member
  exact of_decide_eq_true member.2

theorem restricted_actions : (restricted call workOrderId w reasonCode s).assetActions =
    s.assetActions.create (actionRow call workOrderId w .restrict reasonCode) := by
  unfold restricted withDowntime
  split <;> rfl

theorem restricted_downtimePeriods : (restricted call workOrderId w reasonCode s).downtimePeriods =
    if (s.downtimePeriods.exists? fun _ p => decide (p.workOrderId = workOrderId ∧ p.asset = w.asset)) = false then
      s.downtimePeriods.create (opened w (actionRow call workOrderId w .restrict reasonCode))
    else s.downtimePeriods := by
  unfold restricted withDowntime
  rw [apply_ite WorkOrderBooks.downtimePeriods]
  rfl

theorem restricted_periods (assets : ∀ p ∈ periods workOrderId s, p.asset = w.asset) (other : Nat) :
    periods other (restricted call workOrderId w reasonCode s) =
      if other = workOrderId ∧ periods workOrderId s = [] then
        [opened w (actionRow call workOrderId w .restrict reasonCode)]
      else periods other s := by
  have found : (s.downtimePeriods.exists? fun _ p => decide (p.workOrderId = workOrderId ∧ p.asset = w.asset)) = false ↔
      periods workOrderId s = [] := by
    rw [← Bool.not_eq_true, Table.exists?_iff, List.eq_nil_iff_forall_not_mem]
    simp only [decide_eq_true_eq, mem_periods, not_exists, not_and]
    constructor
    · intro none' p ⟨key, stored⟩ own
      exact none' key p stored own (assets p (mem_periods.mpr ⟨⟨key, stored⟩, own⟩))
    · intro none' key p stored own _
      exact none' p ⟨key, stored⟩ own
  have rows : (restricted call workOrderId w reasonCode s).downtimePeriods = _ := restricted_downtimePeriods
  by_cases new : periods workOrderId s = []
  · rw [if_pos (found.mpr new)] at rows
    rw [periods_create (s := s) _ rows]
    show periods other s ++ (if workOrderId = other then _ else _) = _
    by_cases own : other = workOrderId
    · rw [if_pos own.symm, if_pos ⟨own, new⟩, own, new]
      rfl
    · rw [if_neg (Ne.symm own), if_neg fun both => own both.1, List.append_nil]
  · rw [if_neg fun none' => new (found.mp none')] at rows
    rw [if_neg fun both => new both.2]
    unfold periods
    rw [rows]

theorem restricted_actionsOf (other : Nat) : actions other (restricted call workOrderId w reasonCode s) =
    actions other s ++ if workOrderId = other then [actionRow call workOrderId w .restrict reasonCode] else [] :=
  actions_create _ restricted_actions other

theorem backInService_actionsOf (other : Nat) : actions other (backInService call workOrderId w reasonCode s) =
    actions other s ++ if workOrderId = other then [actionRow call workOrderId w .returnToService reasonCode] else [] :=
  actions_create (actionRow call workOrderId w .returnToService reasonCode) rfl other

theorem backInService_periods (other : Nat) : periods other (backInService call workOrderId w reasonCode s) =
    (periods other s).map fun p => if openPeriod workOrderId p = true then ended call p else p :=
  periods_withoutDowntime call workOrderId other

theorem acted_cases (call : Acting) (workOrderId : Nat) (target : WorkOrderState) (reasonCode : String) (w : WorkOrder)
    (s : WorkOrderBooks) :
    (w.assetRestrictionRequired = true ∧ target = .inProgress ∧
        acted call workOrderId target reasonCode w s = restricted call workOrderId w reasonCode s) ∨
      (w.assetRestrictionRequired = true ∧ PutsBack target ∧
        acted call workOrderId target reasonCode w s = backInService call workOrderId w reasonCode s) ∨
      ((w.assetRestrictionRequired = true → target ≠ .inProgress ∧ ¬ PutsBack target) ∧
        acted call workOrderId target reasonCode w s = s) := by
  unfold acted
  by_cases required : w.assetRestrictionRequired = true
  · rw [if_pos required]
    by_cases starts : target = .inProgress
    · exact Or.inl ⟨required, starts, if_pos starts⟩
    · rw [if_neg starts]
      by_cases back : PutsBack target
      · exact Or.inr (Or.inl ⟨required, back, if_pos back⟩)
      · exact Or.inr (Or.inr ⟨fun _ => ⟨starts, back⟩, if_neg back⟩)
  · exact Or.inr (Or.inr ⟨fun yes => absurd yes required, if_neg required⟩)

theorem acted_other (assets : w.assetRestrictionRequired = true → ∀ p ∈ periods workOrderId s, p.asset = w.asset)
    {other : Nat} (different : other ≠ workOrderId) :
    periods other (acted call workOrderId target reasonCode w s) = periods other s ∧
      actions other (acted call workOrderId target reasonCode w s) = actions other s := by
  obtain ⟨required, -, same⟩ | ⟨-, -, same⟩ | ⟨-, same⟩ := acted_cases call workOrderId target reasonCode w s
  · rw [same, restricted_periods (assets required), restricted_actionsOf, if_neg fun both => different both.1,
      if_neg (Ne.symm different), List.append_nil]
    exact ⟨rfl, rfl⟩
  · rw [same, backInService_periods, backInService_actionsOf, if_neg (Ne.symm different), List.append_nil]
    refine ⟨?_, rfl⟩
    conv_rhs => rw [← List.map_id (periods other s)]
    refine List.map_congr_left fun p mem => if_neg fun open' => ?_
    have own : p.workOrderId = workOrderId := (of_decide_eq_true open').1
    exact different ((mem_periods.mp mem).2.symm.trans own)
  · rw [same]
    exact ⟨rfl, rfl⟩

theorem Accounted.assets {found : List DowntimePeriod} {did : List AssetAction} (accounted : Accounted w found did) :
    ∀ p ∈ found, p.asset = w.asset := by
  intro p mem
  rw [accounted.periods] at mem
  obtain past | now := List.mem_append.mp mem
  · obtain ⟨span, -, rfl⟩ := List.mem_map.mp past
    rfl
  · obtain ⟨first, -, rfl⟩ := Option.map_eq_some_iff.mp (Option.mem_toList.mp now)
    rfl

theorem booked_movedTo (booked : Booked s) (may : MayMove call workOrderId w target s)
    (fits : target = .inProgress → w.assetRestrictionRequired = true → w.state ≠ .verified) :
    Booked (movedTo setup call workOrderId target reasonCode notes w s) := by
  have assets : w.assetRestrictionRequired = true → ∀ p ∈ periods workOrderId s, p.asset = w.asset := fun required =>
    (booked.accounted workOrderId w may.stored required).assets
  have others {other : Nat} (different : other ≠ workOrderId) :
      periods other (acted call workOrderId target reasonCode w s) = periods other s ∧
        actions other (acted call workOrderId target reasonCode w s) = actions other s := acted_other assets different
  refine ⟨keyed_movedTo may booked.keyed, fun other missing => ?_, fun other w' stored required => ?_⟩
  · rw [get?_movedTo may] at missing
    split at missing
    · cases missing
    · rename_i different
      obtain ⟨noPeriods, noActions⟩ := booked.unknown other missing
      exact ⟨(others different).1.trans noPeriods, (others different).2.trans noActions⟩
  · rw [get?_movedTo may] at stored
    split at stored
    · rename_i own
      cases stored
      subst own
      have accounted := booked.accounted other w may.stored required
      show Accounted _ (periods other (acted call other target reasonCode w s))
        (actions other (acted call other target reasonCode w s))
      obtain ⟨-, starts, same⟩ | ⟨-, back, same⟩ | ⟨stays, same⟩ := acted_cases call other target reasonCode w s
      · subst starts
        rw [same, restricted_actionsOf, if_pos rfl, restricted_periods accounted.assets]
        have restricts : Accounted (moved call .inProgress (policyPausesSla setup w .inProgress) w) _ _ :=
          accounted.restrict call other reasonCode may.allowed (fits rfl required) rfl rfl rfl
        simpa only [true_and] using restricts
      · rw [same, backInService_actionsOf, if_pos rfl, backInService_periods]
        refine accounted.free call other reasonCode (fun a => mem_actions) ?_ rfl rfl back ?_
        · intro p mem open'
          obtain ⟨key, stored⟩ := (mem_periods.mp mem).1
          exact may.inTime back required key p stored open'
        · have allowed := may.allowed
          revert allowed
          obtain rfl | rfl := back <;> cases w.state <;> decide
      · rw [same]
        obtain ⟨waits, remains⟩ := stays required
        exact accounted.other may.allowed waits remains rfl rfl rfl
    · rename_i different
      have kept := booked.accounted other w' stored required
      rw [← (others different).1, ← (others different).2] at kept
      exact kept

theorem taken_up_apart (booked : Booked s) (may : MayMove call workOrderId w .inProgress s)
    (required : w.assetRestrictionRequired = true) (verified : w.state = .verified) :
    ¬ DowntimeAddsUp (movedTo setup call workOrderId .inProgress reasonCode notes w s) := by
  intro addsUp
  have accounted := booked.accounted workOrderId w may.stored required
  obtain ⟨freed, idle⟩ := accounted.once verified
  have same : acted call workOrderId .inProgress reasonCode w s = restricted call workOrderId w reasonCode s := by
    unfold acted
    rw [if_pos required, if_pos rfl]
  have later := (addsUp workOrderId (moved call .inProgress (policyPausesSla setup w .inProgress) w)
    (by rw [get?_movedTo may, if_pos rfl]) required).1
  change (∃ p ∈ periods workOrderId (acted call workOrderId .inProgress reasonCode w s), _) ↔
    Ongoing Restricts Frees (actions workOrderId (acted call workOrderId .inProgress reasonCode w s)) at later
  rw [same, restricted_actionsOf, if_pos rfl, restricted_periods accounted.assets, if_neg, accounted.open_iff,
    ongoing_append] at later
  · have none' : ¬ Ongoing Restricts Frees (actions workOrderId s) := by
      rw [← current_isSome_iff, idle]
      exact Bool.false_ne_true
    exact none' (later.mpr (Or.inl rfl))
  · rintro ⟨-, nothing⟩
    rw [accounted.periods] at nothing
    exact freed (List.map_eq_nil_iff.mp (List.append_eq_nil_iff.mp nothing).1)

end Transition

/-! ### Calls -/

section Calls
variable {setup : MaintenanceSetup} {s s' : WorkOrderBooks}

theorem Described.booked (described : Described s s') (booked : Booked s) : Booked s' := by
  have same : ∀ workOrderId, periods workOrderId s' = periods workOrderId s ∧
      actions workOrderId s' = actions workOrderId s := by
    intro workOrderId
    unfold periods actions
    rw [described.downtimePeriods, described.assetActions]
    exact ⟨rfl, rfl⟩
  refine ⟨described.keyed booked.keyed, fun workOrderId missing => ?_, fun workOrderId w' stored required => ?_⟩
  · rw [(same workOrderId).1, (same workOrderId).2]
    have orders := described.orders workOrderId
    rw [missing] at orders
    exact booked.unknown workOrderId (Option.map_eq_none_iff.mp orders.symm)
  · rw [(same workOrderId).1, (same workOrderId).2]
    obtain ⟨w, stored', alike⟩ := described.stored stored
    have restricts : (plain w').assetRestrictionRequired = (plain w).assetRestrictionRequired := by rw [alike]
    exact (booked.accounted workOrderId w stored' (restricts.symm.trans required)).plain alike

theorem booked_reported {call : Acting} {data : WorkOrderData} (booked : Booked s)
    (success : Returns (WorkOrderWorkflow.create setup call data) s () s') : Booked s' := by
  have keyed := create_keyed booked.keyed success
  obtain ⟨currency, rows, rfl, -, -⟩ := create_reports success
  refine ⟨keyed, fun workOrderId missing => booked.unknown workOrderId ?_, fun workOrderId w stored required => ?_⟩
  · by_contra present
    obtain ⟨w, stored⟩ := Option.ne_none_iff_exists'.mp present
    rw [Table.get?_create_of_some _ _ stored] at missing
    cases missing
  · obtain ⟨rfl, rfl⟩ | earlier := Table.get?_create_cases stored
    · obtain ⟨noPeriods, noActions⟩ := booked.unknown _ (Table.get?_nextId s.workOrders)
      show Accounted _ (periods s.workOrders.nextId s) (actions s.workOrders.nextId s)
      rw [noPeriods, noActions]
      exact accounted_new rfl
    · exact booked.accounted workOrderId w earlier required

theorem downtime_step (asked : WorkOrderCall) (s : WorkOrderBooks) (booked : Booked s) :
    ((True ∧ DowntimeAddsUp (asked.next setup s)) ↔ ¬ TakesUpVerified asked s) ∧
      (¬ TakesUpVerified asked s → Booked (asked.next setup s)) := by
  have kept : ¬ TakesUpVerified asked s → Booked (asked.next setup s) := by
    intro fits
    have changes := changes_next setup asked s
    generalize asked.next setup s = s' at changes
    cases changes with
    | described described => exact described.booked booked
    | reported call data success => exact booked_reported booked success
    | moved described call workOrderId target reasonCode notes w may starts =>
      refine booked_movedTo (described.booked booked) may fun begins required verified => fits ?_
      obtain ⟨rfl, rfl⟩ := starts begins
      exact ⟨begins, w, may, required, verified⟩
  refine ⟨⟨?_, fun fits => ⟨trivial, (kept fits).addsUp⟩⟩, kept⟩
  rintro ⟨-, addsUp⟩ takesUp
  cases asked with
  | transition call workOrderId target reasonCode notes =>
    obtain ⟨rfl, w, may, required, verified⟩ := takesUp
    have moves := (transition_returns setup call workOrderId .inProgress reasonCode notes s _ ()).mpr ⟨w, may, rfl⟩
    unfold WorkOrderCall.next WorkOrderCall.perform at addsUp
    rw [moves.after_eq] at addsUp
    exact taken_up_apart booked may required verified addsUp
  | _ => exact takesUp

end Calls

/-- The downtime of every work order adds up throughout a run exactly if none that restricts its asset is taken up
again after its verification. -/
theorem downtime_adds_up_iff (setup : MaintenanceSetup) (calls : List WorkOrderCall) (s : WorkOrderBooks)
    (booked : Booked s) :
    Runs.Throughout (WorkOrderCall.next setup) DowntimeAddsUp calls s ↔
      Runs.Met (WorkOrderCall.next setup) (fun call s => ¬ TakesUpVerified call s) calls s := by
  have exact' : (Runs.Met (WorkOrderCall.next setup) (fun _ _ => True) calls s ∧
      Runs.Throughout (WorkOrderCall.next setup) DowntimeAddsUp calls s) ↔ _ :=
    Runs.met_throughout_iff_met_of (Q := Booked) (fun call s booked _ => downtime_step call s booked) calls s booked
      booked.addsUp
  exact ⟨fun all => exact'.mp ⟨Runs.met_always calls s, all⟩, fun met => (exact'.mpr met).2⟩

theorem inService_booked : Booked inService where
  keyed := inService_keyed
  unknown := fun _ _ => ⟨rfl, rfl⟩
  accounted := by
    intro workOrderId w stored
    cases stored

theorem downtime_repairOnce :
    Runs.Throughout (WorkOrderCall.next oneTechnician) DowntimeAddsUp repairOnce inService := by
  refine (downtime_adds_up_iff oneTechnician repairOnce inService inService_booked).mpr ?_
  have other : ∀ (call : Acting) (workOrderId : Nat) (target : WorkOrderState) (reasonCode : String)
      (notes : Option String) (s : WorkOrderBooks), target ≠ .inProgress →
        ¬ TakesUpVerified (.transition call workOrderId target reasonCode notes) s :=
    fun _ _ _ _ _ _ waits takesUp => waits takesUp.1
  refine ⟨nofun, other _ _ _ _ _ _ (by decide), nofun, ?_, nofun, other _ _ _ _ _ _ (by decide),
    other _ _ _ _ _ _ (by decide), trivial⟩
  rintro ⟨-, w, may, -, verified⟩
  have assigned : ((Runs.reached (WorkOrderCall.next oneTechnician) (repairOnce.take 3) inService).workOrders.get?
      0).map WorkOrder.state = some .assigned := by decide +kernel
  have stored : (Runs.reached (WorkOrderCall.next oneTechnician) (repairOnce.take 3) inService).workOrders.get? 0 =
    some w := may.stored
  rw [stored, Option.map_some, verified] at assigned
  cases assigned

/-- A verified repair is taken up again: the station is restricted and no period is open. -/
theorem rework_without_downtime : ¬ ∀ (setup : MaintenanceSetup) (calls : List WorkOrderCall) (s : WorkOrderBooks),
    Booked s → Runs.Throughout (WorkOrderCall.next setup) DowntimeAddsUp calls s := by
  intro always
  let rework := repairOnce ++ [.transition ⟨some 1, 0⟩ 0 .inProgress "failed again" none]
  have last := (always oneTechnician rework inService inService_booked).last
  let s := Runs.reached (WorkOrderCall.next oneTechnician) rework inService
  have required : ((s.workOrders.get? 0).any fun w => w.assetRestrictionRequired) = true := by decide +kernel
  obtain ⟨w, stored, restricts⟩ := (Option.any_eq_true ..).mp required
  have restricted : Ongoing Restricts Frees (actions 0 s) := by decide +kernel
  obtain ⟨p, mem, unended⟩ := (last 0 w stored restricts).1.mpr restricted
  have closed : ((periods 0 s).all fun p => p.endedAt.isSome) = true := by decide +kernel
  have ended := List.all_eq_true.mp closed p mem
  rw [unended] at ended
  cases ended

end VtsaCsms.Maintenance
