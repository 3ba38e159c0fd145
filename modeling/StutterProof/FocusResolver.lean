import Mathlib.Order.Defs.LinearOrder
import Mathlib.Data.List.Chain
import StutterProof.Candidate

/-! # The focus resolver

Every poll hands the resolver a snapshot of the processes with its scored groups, and the resolver
keeps its focus, switches it or clears it.  Three fields carry what it remembers: the current
focus, the pending winner and for how many polls it has been winning.  They are changed in
different branches, so what they say about the polls before is an invariant of whole runs. -/
namespace Stutter.Focus

inductive FocusGroupKind where
  | game | browser | compile | media | recording | virtualMachine | desktop | idle | unknown
  deriving DecidableEq

/-- How urgent a group is. -/
inductive PriorityBand where
  | criticalRealtime | foregroundLatency | interactive | throughput | background | unknown
  deriving DecidableEq

/-- `priority_band_rank`. -/
def priorityBandRank : PriorityBand → Nat
  | .unknown => 0
  | .background => 1
  | .throughput => 2
  | .interactive => 3
  | .foregroundLatency => 4
  | .criticalRealtime => 5

/-- A group of processes that may have the focus. -/
structure FocusGroup (S : Type) where
  kind : FocusGroupKind
  rootPids : List UInt32
  primaryPid : Option UInt32
  score : S
  confidence : S
  priorityBand : PriorityBand
  deriving DecidableEq

/-- A snapshot: its processes by pid, and the groups that were built of them. -/
structure FocusSnapshot (S : Type) where
  elapsedMs : Nat
  processes : List UInt32
  groups : List (FocusGroup S)

/-- The policy, and with it the literal 0.45 below which a focus is given up. -/
structure FocusPolicy (S : Type) where
  minConfidence : S
  switchMargin : S
  switchCooldownMs : Nat
  requiredWinnerPolls : Nat
  maxRoots : Nat
  scoreFloor : S

/-- The group that has the focus. -/
structure ResolvedFocus (S : Type) where
  group : FocusGroup S
  selectedAtMs : Nat
  lastConfirmedMs : Nat
  situation : SituationKind
  deriving DecidableEq

/-- A group that may take the focus. -/
structure PendingFocus (S : Type) where
  group : FocusGroup S
  firstSeenMs : Nat
  polls : Nat

/-- The resolver's state. -/
structure FocusResolver (S : Type) where
  current : Option (ResolvedFocus S)
  pending : Option (PendingFocus S)
  policy : FocusPolicy S

/-- Why there is no focus, as far as a text says it. -/
inductive FocusReason (S : Type) where
  | confidence (minConfidence : S)
  | currentGone
  | waiting (polls required firstSeenMs : Nat)
  deriving DecidableEq

/-- What a poll decides. -/
inductive FocusDecision (S : Type) where
  | keep (focus : ResolvedFocus S)
  | switch (old : Option (ResolvedFocus S)) (new : ResolvedFocus S)
  | clear (old : Option (ResolvedFocus S)) (reason : FocusReason S)
  | noTarget (reason : FocusReason S)
  deriving DecidableEq

variable {S : Type}

/-- `situation_for_group`. -/
def situationForGroup (group : FocusGroup S) : SituationKind :=
  match group.kind with
  | .game => .gameFocused
  | .browser => .browserFocused
  | .compile => .compileLoad
  | .media => .mediaPlayback
  | .recording => .recording
  | .virtualMachine => .virtualMachineLoad
  | .idle => .idle
  | .desktop | .unknown => .unknown

/-- `resolved_focus_from_group`. -/
def resolvedFocusFromGroup (group : FocusGroup S) (elapsedMs : Nat) : ResolvedFocus S :=
  ⟨group, elapsedMs, elapsedMs, situationForGroup group⟩

/-- `limit_group_roots`. -/
def limitGroupRoots (policy : FocusPolicy S) (group : FocusGroup S) : FocusGroup S :=
  { group with rootPids := group.rootPids.take policy.maxRoots }

/-- `group_roots_alive`: of a group without roots the primary process counts. -/
def groupRootsAlive (snapshot : FocusSnapshot S) (group : FocusGroup S) : Bool :=
  if group.rootPids.isEmpty then group.primaryPid.any (snapshot.processes.contains ·)
  else group.rootPids.any (snapshot.processes.contains ·)

/-- `same_focus_identity`. -/
def sameFocusIdentity (left right : FocusGroup S) : Bool :=
  if left.kind ≠ right.kind then false
  else if !left.rootPids.isEmpty && !right.rootPids.isEmpty then
    left.rootPids.any (right.rootPids.contains ·)
  else match left.primaryPid, right.primaryPid with
    | some left, some right => left = right
    | _, _ => false

/-- The pid a tie is broken with. -/
def FocusGroup.tieRoot (group : FocusGroup S) : UInt32 :=
  (group.rootPids.head?.or group.primaryPid).getD 0xffffffff

section
variable [LinearOrder S]

/-- `compare_group_preference`: a smaller pid is preferred. -/
def compareGroupPreference (left right : FocusGroup S) : Ordering :=
  (compare left.score right.score).then <|
    (compare left.confidence right.confidence).then <|
      (compare (priorityBandRank left.priorityBand) (priorityBandRank right.priorityBand)).then <|
        compare right.tieRoot.toNat left.tieRoot.toNat

/-- `Iterator::max_by`: of several that compare equal the last. -/
def maxByPreference : List (FocusGroup S) → Option (FocusGroup S)
  | [] => none
  | first :: rest => some <| rest.foldl (fun best group =>
      if compareGroupPreference best group = .gt then best else group) first

def eligible (policy : FocusPolicy S) (snapshot : FocusSnapshot S) (group : FocusGroup S) : Bool :=
  policy.minConfidence ≤ group.confidence && groupRootsAlive snapshot group

/-- `best_eligible_group`. -/
def bestEligibleGroup (policy : FocusPolicy S) (snapshot : FocusSnapshot S) :
    Option (FocusGroup S) :=
  maxByPreference (snapshot.groups.filter (eligible policy snapshot))

/-- The candidate of a poll. -/
def candidateOf (policy : FocusPolicy S) (snapshot : FocusSnapshot S) : Option (FocusGroup S) :=
  (bestEligibleGroup policy snapshot).map (limitGroupRoots policy)

/-- The current focus in the snapshot: the first group with its identity, if that is alive and its
score is not below the floor. -/
def currentGroup (policy : FocusPolicy S) (snapshot : FocusSnapshot S)
    (existing : ResolvedFocus S) :
    Option (FocusGroup S) :=
  ((snapshot.groups.find? (sameFocusIdentity · existing.group)).map (limitGroupRoots policy)).filter
    fun group => groupRootsAlive snapshot group && policy.scoreFloor ≤ group.score
end

/-- `required_winner_polls.max(1)`. -/
def FocusPolicy.required (policy : FocusPolicy S) : Nat := max policy.requiredWinnerPolls 1

/-- `confirm_pending_winner`: whether the candidate has won often enough, and what is pending
then.  The count is a `u32`. -/
def confirmPendingWinner (policy : FocusPolicy S) (pending : Option (PendingFocus S))
    (candidate : FocusGroup S) (elapsedMs : Nat) : Bool × Option (PendingFocus S) :=
  if policy.required = 1 then (true, some ⟨candidate, elapsedMs, 1⟩)
  else match pending with
    | some pending =>
      if sameFocusIdentity pending.group candidate then
        let polls := min (pending.polls + 1) (2 ^ 32 - 1)
        (policy.required ≤ polls, some { pending with group := candidate, polls := polls })
      else (false, some ⟨candidate, elapsedMs, 1⟩)
    | none => (false, some ⟨candidate, elapsedMs, 1⟩)

/-- The focus moves to the candidate. -/
def FocusResolver.switchTo (resolver : FocusResolver S) (old : Option (ResolvedFocus S))
    (candidate : FocusGroup S) (elapsedMs : Nat) : FocusDecision S × FocusResolver S :=
  let new := resolvedFocusFromGroup candidate elapsedMs
  (.switch old new, { resolver with current := some new, pending := none })

/-- The current focus as the snapshot shows it. -/
def ResolvedFocus.refresh (existing : ResolvedFocus S) (group : FocusGroup S) (elapsedMs : Nat) :
    ResolvedFocus S :=
  { existing with
    group := group, lastConfirmedMs := elapsedMs, situation := situationForGroup group }

section
variable [LinearOrder S] [Add S]

/-- The part of `decide_from_snapshot` for a current focus that the snapshot still shows. -/
def FocusResolver.decideAlive (resolver : FocusResolver S) (snapshot : FocusSnapshot S)
    (candidate : FocusGroup S) (refreshed : ResolvedFocus S) : FocusDecision S × FocusResolver S :=
  let keep : FocusDecision S × FocusResolver S :=
    (.keep refreshed, { resolver with current := some refreshed, pending := none })
  if sameFocusIdentity refreshed.group candidate then keep
  else if candidate.score < refreshed.group.score + resolver.policy.switchMargin then keep
  else if snapshot.elapsedMs - refreshed.selectedAtMs < resolver.policy.switchCooldownMs then keep
  else
    let (confirmed, pending) :=
      confirmPendingWinner resolver.policy resolver.pending candidate snapshot.elapsedMs
    if !confirmed then
      (.keep refreshed, { resolver with current := some refreshed, pending := pending })
    else resolver.switchTo (some refreshed) candidate snapshot.elapsedMs

/-- `decide_from_snapshot`. -/
def FocusResolver.decideFromSnapshot (resolver : FocusResolver S) (snapshot : FocusSnapshot S) :
    FocusDecision S × FocusResolver S :=
  match candidateOf resolver.policy snapshot with
  | none =>
    let reason := .confidence resolver.policy.minConfidence
    (match resolver.current with
      | some old => .clear (some old) reason
      | none => .noTarget reason, { resolver with current := none, pending := none })
  | some candidate =>
    match resolver.current with
    | some existing =>
      match currentGroup resolver.policy snapshot existing with
      | some group =>
        resolver.decideAlive snapshot candidate (existing.refresh group snapshot.elapsedMs)
      | none =>
        let (confirmed, pending) :=
          confirmPendingWinner resolver.policy resolver.pending candidate snapshot.elapsedMs
        if !confirmed then
          (.clear (some existing) .currentGone, { resolver with
            current := none, pending := pending })
        else resolver.switchTo (some existing) candidate snapshot.elapsedMs
    | none =>
      let (confirmed, pending) :=
        confirmPendingWinner resolver.policy resolver.pending candidate snapshot.elapsedMs
      if !confirmed then
        (.noTarget (.waiting ((pending.map (·.polls)).getD 0) resolver.policy.required
          ((pending.map (·.firstSeenMs)).getD snapshot.elapsedMs)), { resolver with
            pending := pending })
      else resolver.switchTo none candidate snapshot.elapsedMs

/-- The resolver after some polls, with every snapshot and what was decided on it. -/
def poll (policy : FocusPolicy S) (snapshots : List (FocusSnapshot S)) :
    FocusResolver S × List (FocusSnapshot S × FocusDecision S) :=
  snapshots.foldl (fun (resolver, history) snapshot =>
    let (decision, resolver) := resolver.decideFromSnapshot snapshot
    (resolver, history ++ [(snapshot, decision)])) (⟨none, none, policy⟩, [])
end

/-! ## The candidate of a poll -/

section
variable [LinearOrder S]

/-- Preference goes by the score first. -/
theorem score_le_of_compare {left right : FocusGroup S} :
    (compareGroupPreference left right = .gt → right.score ≤ left.score) ∧
      (compareGroupPreference left right ≠ .gt → left.score ≤ right.score) := by
  unfold compareGroupPreference
  rcases order : compare left.score right.score with _ | _ | _
  · rw [compare_lt_iff_lt] at order
    exact ⟨fun gt => absurd gt (by simp), fun _ => le_of_lt order⟩
  · rw [compare_eq_iff_eq] at order
    exact ⟨fun _ => le_of_eq order.symm, fun _ => le_of_eq order⟩
  · rw [compare_gt_iff_gt] at order
    exact ⟨fun _ => le_of_lt order, fun le => absurd rfl le⟩

theorem maxByPreference_spec {groups : List (FocusGroup S)} {best : FocusGroup S}
    (found : maxByPreference groups = some best) :
    best ∈ groups ∧ ∀ group ∈ groups, group.score ≤ best.score := by
  cases groups with
  | nil => cases found
  | cons first rest =>
    rw [maxByPreference, Option.some.injEq] at found
    subst found
    -- over what is left, the best so far is among what was seen and not below any of it
    induction rest generalizing first with
    | nil =>
      refine ⟨List.mem_singleton_self _, fun group mem => ?_⟩
      rw [List.mem_singleton.mp mem]
      exact le_refl _
    | cons next rest ih =>
      rw [List.foldl_cons]
      by_cases preferred : compareGroupPreference first next = .gt
      · rw [if_pos preferred]
        obtain ⟨mem, top⟩ := ih first
        refine ⟨?_, fun group isIn => ?_⟩
        · rcases List.mem_cons.mp mem with here | later
          · exact List.mem_cons.mpr (.inl here)
          · exact List.mem_cons_of_mem _ (List.mem_cons_of_mem _ later)
        · rcases List.mem_cons.mp isIn with rfl | isIn
          · exact top group List.mem_cons_self
          · rcases List.mem_cons.mp isIn with rfl | isIn
            · exact le_trans (score_le_of_compare.1 preferred) (top first List.mem_cons_self)
            · exact top group (List.mem_cons_of_mem _ isIn)
      · rw [if_neg preferred]
        obtain ⟨mem, top⟩ := ih next
        refine ⟨List.mem_cons_of_mem _ mem, fun group isIn => ?_⟩
        rcases List.mem_cons.mp isIn with rfl | isIn
        · exact le_trans (score_le_of_compare.2 preferred) (top next List.mem_cons_self)
        · exact top group isIn

/-- The best eligible group of a snapshot, with its first roots. -/
structure IsCandidate (policy : FocusPolicy S) (snapshot : FocusSnapshot S)
    (candidate best : FocusGroup S) :
    Prop where
  mem : best ∈ snapshot.groups
  limited : candidate = limitGroupRoots policy best
  confident : policy.minConfidence ≤ best.confidence
  alive : groupRootsAlive snapshot best = true
  top : ∀ group ∈ snapshot.groups, policy.minConfidence ≤ group.confidence →
    groupRootsAlive snapshot group = true → group.score ≤ best.score

theorem candidateOf_isCandidate {policy : FocusPolicy S} {snapshot : FocusSnapshot S}
    {candidate : FocusGroup S} (found : candidateOf policy snapshot = some candidate) :
    ∃ best, IsCandidate policy snapshot candidate best := by
  obtain ⟨best, isBest, limited⟩ := Option.map_eq_some_iff.mp found
  obtain ⟨mem, top⟩ := maxByPreference_spec isBest
  obtain ⟨inGroups, isEligible⟩ := List.mem_filter.mp mem
  simp only [eligible, Bool.and_eq_true, decide_eq_true_eq] at isEligible
  refine ⟨best, inGroups, limited.symm, isEligible.1, isEligible.2,
    fun group isIn confident alive => ?_⟩
  apply top group
  rw [List.mem_filter]
  exact ⟨isIn, by simp [eligible, confident, alive]⟩
end

/-! ## What one poll can do -/

section
variable [LinearOrder S] [Add S]

def FocusDecision.isSwitch : FocusDecision S → Bool
  | .switch _ _ => true
  | _ => false

def FocusDecision.isKeep : FocusDecision S → Bool
  | .keep _ => true
  | _ => false

/-- What a poll decides, and what is current and pending after it. -/
inductive FocusResolver.Decides (resolver : FocusResolver S) (snapshot : FocusSnapshot S) :
    FocusDecision S → Option (ResolvedFocus S) → Option (PendingFocus S) → Prop where
  /-- There is no candidate. -/
  | nothing {decision : FocusDecision S} : decision.isKeep = false → decision.isSwitch = false →
      resolver.Decides snapshot decision none none
  /-- The current focus is the candidate, or the candidate is not that much better, or it is too
  early. -/
  | kept {existing : ResolvedFocus S} {group : FocusGroup S} : resolver.current = some existing →
      currentGroup resolver.policy snapshot existing = some group →
      resolver.Decides snapshot (.keep (existing.refresh group snapshot.elapsedMs))
        (some (existing.refresh group snapshot.elapsedMs)) none
  /-- The candidate has to win again. -/
  | confirming {existing : ResolvedFocus S} {group candidate : FocusGroup S} :
      resolver.current = some existing →
      currentGroup resolver.policy snapshot existing = some group →
      candidateOf resolver.policy snapshot = some candidate →
      resolver.Decides snapshot (.keep (existing.refresh group snapshot.elapsedMs))
        (some (existing.refresh group snapshot.elapsedMs))
        (confirmPendingWinner resolver.policy resolver.pending candidate snapshot.elapsedMs).2
  /-- So it has, and there is no focus until then. -/
  | waiting {decision : FocusDecision S} {candidate : FocusGroup S} : decision.isKeep = false →
      decision.isSwitch = false → candidateOf resolver.policy snapshot = some candidate →
      resolver.Decides snapshot decision none
        (confirmPendingWinner resolver.policy resolver.pending candidate snapshot.elapsedMs).2
  /-- The candidate has won.  If the focus it replaces is still shown, it is better by the margin,
  and the cooldown is over. -/
  | switched {old : Option (ResolvedFocus S)} {candidate : FocusGroup S} :
      candidateOf resolver.policy snapshot = some candidate →
      (confirmPendingWinner resolver.policy resolver.pending candidate snapshot.elapsedMs).1 =
        true →
      (∀ existing group, resolver.current = some existing →
        currentGroup resolver.policy snapshot existing = some group →
        group.score + resolver.policy.switchMargin ≤ candidate.score ∧
          resolver.policy.switchCooldownMs ≤ snapshot.elapsedMs - existing.selectedAtMs) →
      resolver.Decides snapshot (.switch old (resolvedFocusFromGroup candidate snapshot.elapsedMs))
        (some (resolvedFocusFromGroup candidate snapshot.elapsedMs)) none

open FocusResolver

theorem FocusResolver.decideAlive_decides {resolver : FocusResolver S} {snapshot : FocusSnapshot S}
    {candidate group : FocusGroup S} {existing : ResolvedFocus S}
    (current : resolver.current = some existing)
    (shown : currentGroup resolver.policy snapshot existing = some group)
    (found : candidateOf resolver.policy snapshot = some candidate) :
    let outcome :=
      resolver.decideAlive snapshot candidate (existing.refresh group snapshot.elapsedMs)
    resolver.Decides snapshot outcome.1 outcome.2.current outcome.2.pending ∧
      outcome.2.policy = resolver.policy := by
  unfold decideAlive
  simp only
  split
  · exact ⟨.kept current shown, rfl⟩
  split
  · exact ⟨.kept current shown, rfl⟩
  split
  · exact ⟨.kept current shown, rfl⟩
  rename_i margin cooldown
  split
  · exact ⟨.confirming current shown found, rfl⟩
  · rename_i confirmed
    refine ⟨.switched found (by simpa using confirmed) ?_, rfl⟩
    intro existing' group' current' shown'
    rw [current] at current'
    cases current'
    rw [shown] at shown'
    cases shown'
    exact ⟨not_lt.mp margin, Nat.le_of_not_lt cooldown⟩

theorem FocusResolver.decides (resolver : FocusResolver S) (snapshot : FocusSnapshot S) :
    let outcome := resolver.decideFromSnapshot snapshot
    resolver.Decides snapshot outcome.1 outcome.2.current outcome.2.pending ∧
      outcome.2.policy = resolver.policy := by
  rcases found : candidateOf resolver.policy snapshot with _ | candidate
  · simp only [decideFromSnapshot, found]
    refine ⟨.nothing ?_ ?_, trivial⟩ <;> split <;> rfl
  rcases current : resolver.current with _ | existing
  · simp only [decideFromSnapshot, found, current]
    split
    · exact ⟨.waiting rfl rfl found, rfl⟩
    · rename_i confirmed
      exact ⟨.switched found (by simpa using confirmed) (fun _ _ some => by simp [current] at some),
        rfl⟩
  · rcases shown : currentGroup resolver.policy snapshot existing with _ | group
    · simp only [decideFromSnapshot, found, current, shown]
      split
      · exact ⟨.waiting rfl rfl found, rfl⟩
      · rename_i confirmed
        refine ⟨.switched found (by simpa using confirmed) ?_, rfl⟩
        intro existing' group current' shown'
        rw [current] at current'
        cases current'
        rw [shown] at shown'
        cases shown'
    · have alive := decideAlive_decides current shown found
      simp only [decideFromSnapshot, found, current, shown]
      exact alive
end

/-! ## What the resolver remembers of a run -/

section
variable [LinearOrder S]

/-- At least `number` of the last polls were won by one group, followed from each poll to the next
by its identity, and `group` is what it is now. -/
def Won (policy : FocusPolicy S) (snapshots : List (FocusSnapshot S)) (number : Nat)
    (group : FocusGroup S) : Prop :=
  ∃ polls : List (FocusGroup S), number ≤ polls.length ∧ polls.getLast? = some group ∧
    polls.IsChain (fun before after => sameFocusIdentity before after = true) ∧
    polls.map some <:+ snapshots.map (candidateOf policy)

variable {policy : FocusPolicy S} {snapshot : FocusSnapshot S}

theorem Won.first {candidate : FocusGroup S}
    (found : candidateOf policy snapshot = some candidate) (snapshots : List (FocusSnapshot S)) :
    Won policy (snapshots ++ [snapshot]) 1 candidate := by
  refine ⟨[candidate], Nat.le_refl 1, rfl, List.isChain_singleton _, ?_⟩
  rw [List.map_append, List.map_singleton, List.map_singleton, found]
  exact List.suffix_append _ _

variable {snapshots : List (FocusSnapshot S)}

theorem Won.again {number : Nat} {group candidate : FocusGroup S}
    (won : Won policy snapshots number group) (same : sameFocusIdentity group candidate = true)
    (found : candidateOf policy snapshot = some candidate) :
    Won policy (snapshots ++ [snapshot]) (number + 1) candidate := by
  obtain ⟨polls, enough, last, chain, recent⟩ := won
  refine ⟨polls ++ [candidate], ?_, List.getLast?_concat, ?_, ?_⟩
  · rw [List.length_append, List.length_singleton]
    omega
  · rw [List.isChain_append]
    refine ⟨chain, List.isChain_singleton _, ?_⟩
    intro before isLast after isFirst
    rw [last] at isLast
    cases isLast
    cases isFirst
    exact same
  · obtain ⟨earlier, split⟩ := recent
    refine ⟨earlier, ?_⟩
    rw [List.map_append, List.map_append, List.map_singleton, List.map_singleton, found, ← split,
      List.append_assoc]

theorem Won.mono {number fewer : Nat} {group : FocusGroup S}
    (won : Won policy snapshots number group) (le : fewer ≤ number) :
    Won policy snapshots fewer group := by
  obtain ⟨polls, enough, rest⟩ := won
  exact ⟨polls, Nat.le_trans le enough, rest⟩

/-- `confirm_pending_winner` counts polls that were won, and confirms when they are enough. -/
theorem confirmPendingWinner_won {pending : Option (PendingFocus S)}
    (counted : ∀ winner, pending = some winner → Won policy snapshots winner.polls winner.group)
    {candidate : FocusGroup S} (found : candidateOf policy snapshot = some candidate) :
    (∀ winner, (confirmPendingWinner policy pending candidate snapshot.elapsedMs).2 = some winner →
        Won policy (snapshots ++ [snapshot]) winner.polls winner.group) ∧
      ((confirmPendingWinner policy pending candidate snapshot.elapsedMs).1 = true →
        Won policy (snapshots ++ [snapshot]) policy.required candidate) := by
  have first := Won.first found snapshots
  unfold confirmPendingWinner
  by_cases one : policy.required = 1
  · rw [if_pos one]
    refine ⟨fun winner some => ?_, fun _ => one ▸ first⟩
    cases some
    exact first
  rw [if_neg one]
  rcases pending with _ | winner
  · refine ⟨fun winner some => ?_, fun confirmed => by cases confirmed⟩
    cases some
    exact first
  simp only
  by_cases same : sameFocusIdentity winner.group candidate = true
  · rw [if_pos same]
    have again := (counted winner rfl).again same found
    constructor
    · intro next some
      cases some
      exact again.mono (Nat.min_le_left _ _)
    · intro confirmed
      have enough : policy.required ≤ min (winner.polls + 1)
          (2 ^ 32 - 1) := by simpa using confirmed
      exact again.mono (Nat.le_trans enough (Nat.min_le_left _ _))
  · rw [if_neg same]
    refine ⟨fun next some => ?_, fun confirmed => by cases confirmed⟩
    cases some
    exact first

end

/-- The focus was switched to at that time and has been kept ever since. -/
def SelectedAt (history : List (FocusSnapshot S × FocusDecision S)) (elapsedMs : Nat) : Prop :=
  ∃ earlier snapshot old new later,
    history = earlier ++ (snapshot, FocusDecision.switch old new) :: later ∧
      snapshot.elapsedMs = elapsedMs ∧ ∀ entry ∈ later, entry.2.isKeep = true

theorem SelectedAt.kept {history : List (FocusSnapshot S × FocusDecision S)} {elapsedMs : Nat}
    (selected : SelectedAt history elapsedMs) (snapshot : FocusSnapshot S)
    (focus : ResolvedFocus S) :
    SelectedAt (history ++ [(snapshot, .keep focus)]) elapsedMs := by
  obtain ⟨earlier, selection, old, new, later, split, time, kept⟩ := selected
  refine ⟨earlier, selection, old, new, later ++ [(snapshot, .keep focus)], ?_, time, ?_⟩
  · rw [split, List.append_assoc, List.cons_append]
  · intro entry mem
    rcases List.mem_append.mp mem with before | now
    · exact kept entry before
    · rw [List.mem_singleton.mp now]
      rfl

section
variable [LinearOrder S] [Add S]

variable {resolver : FocusResolver S} {snapshot : FocusSnapshot S}
    {current : Option (ResolvedFocus S)} {pending : Option (PendingFocus S)}

/-- What a poll leaves pending was won, and a switch is to a group that has won often enough. -/
theorem FocusResolver.Decides.won {decision : FocusDecision S}
    (decides : resolver.Decides snapshot decision current pending)
    {snapshots : List (FocusSnapshot S)} (counted : ∀ winner, resolver.pending = some winner →
      Won resolver.policy snapshots winner.polls winner.group) :
    (∀ winner, pending = some winner →
        Won resolver.policy (snapshots ++ [snapshot]) winner.polls winner.group) ∧
      ∀ old new, decision = .switch old new →
        Won resolver.policy (snapshots ++ [snapshot]) resolver.policy.required new.group := by
  cases decides with
  | nothing notKeep notSwitch =>
    refine ⟨fun _ isPending => absurd isPending (by simp), fun old new switch => ?_⟩
    rw [switch] at notSwitch
    cases notSwitch
  | kept current shown =>
    exact ⟨fun _ isPending => absurd isPending (by simp), fun _ _ switch => absurd switch (by simp)⟩
  | confirming current shown found =>
    exact ⟨(confirmPendingWinner_won counted found).1, fun _ _ switch => absurd switch (by simp)⟩
  | waiting notKeep notSwitch found =>
    refine ⟨(confirmPendingWinner_won counted found).1, fun old new switch => ?_⟩
    rw [switch] at notSwitch
    cases notSwitch
  | switched found confirmed better =>
    refine ⟨fun _ isPending => absurd isPending (by simp), fun old new switch => ?_⟩
    have won := (confirmPendingWinner_won counted found).2 confirmed
    simp only [FocusDecision.switch.injEq] at switch
    rw [← switch.2]
    exact won

/-- What a poll leaves current was selected by it, or before it and kept by it. -/
theorem FocusResolver.Decides.selectedAt {decision : FocusDecision S}
    (decides : resolver.Decides snapshot decision current pending)
    {history : List (FocusSnapshot S × FocusDecision S)}
    (selected : ∀ focus, resolver.current = some focus → SelectedAt history focus.selectedAtMs) :
    ∀ focus, current = some focus →
      SelectedAt (history ++ [(snapshot, decision)]) focus.selectedAtMs := by
  intro focus isCurrent
  cases decides with
  | nothing => cases isCurrent
  | @kept existing group current shown | @confirming existing group _ current shown =>
    rw [← Option.some.inj isCurrent]
    exact (selected existing current).kept snapshot _
  | waiting => cases isCurrent
  | switched found confirmed better =>
    rw [← Option.some.inj isCurrent]
    exact ⟨history, snapshot, _, _, [], rfl, rfl, fun _ mem => absurd mem List.not_mem_nil⟩

/-- A focus that is kept is alive in the snapshot. -/
theorem FocusResolver.Decides.keep_alive {focus : ResolvedFocus S}
    (decides : resolver.Decides snapshot (.keep focus) current pending) :
    groupRootsAlive snapshot focus.group = true := by
  have alive : ∀ {existing group}, currentGroup resolver.policy snapshot existing = some group →
      groupRootsAlive snapshot group = true := by
    intro existing group shown
    have floor := (Option.filter_eq_some_iff.mp shown).2
    simp only [Bool.and_eq_true] at floor
    exact floor.1
  cases decides with
  | nothing notKeep => cases notKeep
  | kept current shown => exact alive shown
  | confirming current shown => exact alive shown
  | waiting notKeep => cases notKeep

/-- A switch away from a focus that is still shown. -/
theorem FocusResolver.Decides.better {old : Option (ResolvedFocus S)} {new : ResolvedFocus S}
    (decides : resolver.Decides snapshot (.switch old new) current pending) :
    ∀ existing group, resolver.current = some existing →
      currentGroup resolver.policy snapshot existing = some group →
      group.score + resolver.policy.switchMargin ≤ new.group.score ∧
        resolver.policy.switchCooldownMs ≤ snapshot.elapsedMs - existing.selectedAtMs := by
  cases decides with
  | nothing _ notSwitch => cases notSwitch
  | waiting _ notSwitch => cases notSwitch
  | switched found confirmed better => exact better

/-- The resolver's fields say what the polls before were. -/
structure Remembers (policy : FocusPolicy S) (resolver : FocusResolver S)
    (history : List (FocusSnapshot S × FocusDecision S)) : Prop where
  policy_eq : resolver.policy = policy
  pending : ∀ winner, resolver.pending = some winner →
    Won policy (history.map Prod.fst) winner.polls winner.group
  current : ∀ focus, resolver.current = some focus → SelectedAt history focus.selectedAtMs

theorem Remembers.poll {policy : FocusPolicy S} {history : List (FocusSnapshot S × FocusDecision S)}
    (remembers : Remembers policy resolver history) (snapshot : FocusSnapshot S) :
    Remembers policy (resolver.decideFromSnapshot snapshot).2
      (history ++ [(snapshot, (resolver.decideFromSnapshot snapshot).1)]) := by
  obtain ⟨policy_eq, pending, current⟩ := remembers
  subst policy_eq
  obtain ⟨decides, policy_eq⟩ := resolver.decides snapshot
  refine ⟨policy_eq, ?_, decides.selectedAt current⟩
  rw [List.map_append, List.map_singleton]
  exact (decides.won pending).1

variable (policy : FocusPolicy S)

theorem poll_append (before : List (FocusSnapshot S)) (snapshot : FocusSnapshot S) :
    poll policy (before ++ [snapshot])
      = (((poll policy before).1.decideFromSnapshot snapshot).2,
          (poll policy before).2 ++
            [(snapshot, ((poll policy before).1.decideFromSnapshot snapshot).1)]) := by
  unfold poll
  rw [List.foldl_append]
  rfl

theorem poll_snapshots (snapshots : List (FocusSnapshot S)) :
    (poll policy snapshots).2.map Prod.fst = snapshots := by
  induction snapshots using List.reverseRecOn with
  | nil => rfl
  | append_singleton before snapshot ih =>
    rw [poll_append, List.map_append, ih, List.map_singleton]

/-- After every run. -/
theorem poll_remembers (snapshots : List (FocusSnapshot S)) :
    Remembers policy (poll policy snapshots).1 (poll policy snapshots).2 := by
  induction snapshots using List.reverseRecOn with
  | nil =>
    have start : poll policy [] = (⟨none, none, policy⟩, []) := rfl
    rw [start]
    exact ⟨rfl, fun _ h => absurd h (by simp), fun _ h => absurd h (by simp)⟩
  | append_singleton before snapshot ih =>
    rw [poll_append]
    exact ih.poll snapshot

/-- What a decision after some polls rests on: a switch on enough polls that its group has won,
and, when the snapshot still shows the current focus alive and with a score that is not below the
floor, on the margin and on the cooldown since that focus was selected; a keep on a live group. -/
structure Steady (policy : FocusPolicy S) (before : List (FocusSnapshot S))
    (snapshot : FocusSnapshot S) :
    Prop where
  winner : ∀ old new, ((poll policy before).1.decideFromSnapshot snapshot).1 = .switch old new →
    Won policy (before ++ [snapshot]) policy.required new.group
  replaced : ∀ old new, ((poll policy before).1.decideFromSnapshot snapshot).1 = .switch old new →
    ∀ existing group, (poll policy before).1.current = some existing →
      currentGroup policy snapshot existing = some group →
      group.score + policy.switchMargin ≤ new.group.score ∧
        ∃ selectedAtMs, SelectedAt (poll policy before).2 selectedAtMs ∧
          policy.switchCooldownMs ≤ snapshot.elapsedMs - selectedAtMs
  kept : ∀ focus, ((poll policy before).1.decideFromSnapshot snapshot).1 = .keep focus →
    groupRootsAlive snapshot focus.group = true
  /-- What wins a poll is its best eligible group. -/
  best : ∀ polled ∈ before ++ [snapshot], ∀ candidate, candidateOf policy polled = some candidate →
    ∃ group, IsCandidate policy polled candidate group

/-- Every decision of every run. -/
theorem focus_steady (policy : FocusPolicy S) (before : List (FocusSnapshot S))
    (snapshot : FocusSnapshot S) : Steady policy before snapshot := by
  obtain ⟨policy_eq, pending, current⟩ := poll_remembers policy before
  obtain ⟨decides, -⟩ := (poll policy before).1.decides snapshot
  rw [poll_snapshots] at pending
  have won := decides.won (by rw [policy_eq]; exact pending)
  rw [policy_eq] at won
  refine ⟨won.2, ?_, ?_, fun _ _ _ found => candidateOf_isCandidate found⟩
  · intro old new switch existing group isCurrent shown
    rw [switch] at decides
    obtain ⟨margin, cooldown⟩ :=
      decides.better existing group isCurrent (by rw [policy_eq]; exact shown)
    rw [policy_eq] at margin cooldown
    exact ⟨margin, existing.selectedAtMs, current existing isCurrent, cooldown⟩
  · intro focus keep
    rw [keep] at decides
    exact decides.keep_alive
end

/-- A browser is selected; a millisecond later it is alive, but its score is below the floor. -/
def fadingPolls : List (FocusSnapshot Nat) × FocusSnapshot Nat :=
  let browser (score : Nat) : FocusGroup Nat := ⟨.browser, [20], some 20, score, 90, .interactive⟩
  let game : FocusGroup Nat := ⟨.game, [30], some 30, 90, 90, .foregroundLatency⟩
  ([⟨0, [20, 30], [browser 90]⟩], ⟨1, [20, 30], [browser 40, game]⟩)

/-- The focus moves to the game at once, with a cooldown of five seconds. -/
theorem switch_from_live_focus :
    ¬ ∀ (policy : FocusPolicy Nat) (before : List (FocusSnapshot Nat))
        (snapshot : FocusSnapshot Nat),
      (before ++ [snapshot]).Pairwise (fun earlier later => earlier.elapsedMs ≤ later.elapsedMs) →
      ∀ old new existing, ((poll policy before).1.decideFromSnapshot snapshot).1 = .switch old new →
        (poll policy before).1.current = some existing →
        groupRootsAlive snapshot existing.group = true →
        ∃ selectedAtMs, SelectedAt (poll policy before).2 selectedAtMs ∧
          policy.switchCooldownMs ≤ snapshot.elapsedMs - selectedAtMs := by
  intro steady
  let policy : FocusPolicy Nat := ⟨60, 20, 5000, 1, 4, 45⟩
  let game : FocusGroup Nat := ⟨.game, [30], some 30, 90, 90, .foregroundLatency⟩
  let browser : ResolvedFocus Nat :=
    ⟨⟨.browser, [20], some 20, 90, 90, .interactive⟩, 0, 0, .browserFocused⟩
  have switched : ((poll policy fadingPolls.1).1.decideFromSnapshot fadingPolls.2).1
      = .switch (some browser) (resolvedFocusFromGroup game 1) := by decide +kernel
  have current : (poll policy fadingPolls.1).1.current = some browser := by decide +kernel
  obtain ⟨selectedAtMs, -, cooldown⟩ := steady policy fadingPolls.1 fadingPolls.2 (by decide) _ _ _
    switched current (by decide)
  have elapsed : fadingPolls.2.elapsedMs = 1 := rfl
  have long : policy.switchCooldownMs = 5000 := rfl
  omega

end Stutter.Focus
