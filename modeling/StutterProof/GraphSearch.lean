import Mathlib.Data.Finset.Card
import StutterProof.StepLoop

/-! # Searching a graph

A search keeps what it found and what it is still to look at.  `depthTurn` takes a node when it
comes up, `breadthTurn` takes the links of a node when it looks at it.  Both end with all that is
reached, where that is finite.

`chainTurn` follows one link from each node, and stops where it has been. -/
namespace GraphSearch

open StepLoop Relation

variable {α : Type*} [DecidableEq α]

def Link (links : α → List α) (node other : α) : Prop := other ∈ links node

/-- What links lead to from where a search starts. -/
def Reached (links : α → List α) (starts : List α) (node : α) : Prop :=
  ∃ start ∈ starts, ReflTransGen (Link links) start node

/-- What is still to be looked at, the next first, and what was found. -/
structure Search (α : Type*) where
  work : List α
  found : Finset α

/-- How much a search has left: nodes to find, then work. -/
def Search.left (nodes : Finset α) (search : Search α) : ℕ ×ₗ ℕ :=
  toLex (nodes.card - search.found.card, search.work.length)

section
variable {links : α → List α} {starts : List α} {nodes : Finset α}

omit [DecidableEq α] in
/-- A set with the starts that no link leaves has all that is reached. -/
theorem mem_of_reached {found : Finset α} (hstarts : ∀ start ∈ starts, start ∈ found)
    (hclosed : ∀ node ∈ found, ∀ other ∈ links node, other ∈ found) {node : α}
    (h : Reached links starts node) : node ∈ found := by
  obtain ⟨start, hstart, hpath⟩ := h
  induction hpath with
  | refl => exact hstarts start hstart
  | tail _ hlink ih => exact hclosed _ ih _ hlink

omit [DecidableEq α] in
theorem Reached.link {node other : α} (h : Reached links starts node) (hlink : other ∈ links node) :
    Reached links starts other := by
  obtain ⟨start, hstart, hpath⟩ := h
  exact ⟨start, hstart, hpath.tail hlink⟩

omit [DecidableEq α] in
theorem Search.left_lt_of_work {before after : Search α} (hfound : after.found = before.found)
    (hwork : after.work.length < before.work.length) : after.left nodes < before.left nodes := by
  refine Prod.Lex.toLex_lt_toLex.mpr (.inr ⟨?_, hwork⟩)
  rw [hfound]

omit [DecidableEq α] in
theorem Search.left_lt_of_found {before after : Search α} (hin : after.found ⊆ nodes)
    (hmore : before.found ⊂ after.found) : after.left nodes < before.left nodes := by
  have hless := Finset.card_lt_card hmore
  have hle := Finset.card_le_card hin
  exact Prod.Lex.toLex_lt_toLex.mpr (.inl (by simp only; omega))

end

/-! ## Taking a node when it comes up -/

/-- A node that is not `known` is passed by. -/
def depthTurn (known : α → Bool) (links : α → List α) (search : Search α) : Search α ⊕ Finset α :=
  match search.work with
  | [] => .inr search.found
  | node :: work =>
    if !known node then .inl ⟨work, search.found⟩
    else if node ∈ search.found then .inl ⟨work, search.found⟩
    else .inl ⟨links node ++ work, insert node search.found⟩

section Depth
variable {known : α → Bool} {links : α → List α} {starts : List α}

/-- What was found or is to be looked at is reached, and what a found node leads to is not lost. -/
structure DepthInv (links : α → List α) (starts : List α) (search : Search α) : Prop where
  work : ∀ node ∈ search.work, Reached links starts node
  found : ∀ node ∈ search.found, Reached links starts node
  starts : ∀ start ∈ starts, start ∈ search.found ∨ start ∈ search.work
  closed : ∀ node ∈ search.found, ∀ other ∈ links node, other ∈ search.found ∨ other ∈ search.work

omit [DecidableEq α] in
theorem depthInv_init : DepthInv links starts ⟨starts, ∅⟩ where
  work node hnode := ⟨node, hnode, .refl⟩
  found _ hnode := absurd hnode (Finset.notMem_empty _)
  starts _ hstart := .inr hstart
  closed _ hnode := absurd hnode (Finset.notMem_empty _)

/-- What a turn does where every node reached is known. -/
theorem depthTurn_cases (hknown : ∀ node, Reached links starts node → known node = true)
    {before after : Search α} (hinv : DepthInv links starts before)
    (h : Goes (depthTurn known links) before after) :
    ∃ node work, before.work = node :: work ∧
      (node ∈ before.found ∧ after = ⟨work, before.found⟩ ∨
        node ∉ before.found ∧ after = ⟨links node ++ work, insert node before.found⟩) := by
  obtain ⟨work, found⟩ := before
  rcases work with _ | ⟨node, work⟩
  · contradiction
  have hnode := hknown node (hinv.work node List.mem_cons_self)
  refine ⟨node, work, rfl, ?_⟩
  simp only [Goes, depthTurn, hnode, Bool.not_true, Bool.false_eq_true, if_false] at h
  by_cases hfound : node ∈ found
  · rw [if_pos hfound] at h
    exact .inl ⟨hfound, (Sum.inl.inj h).symm⟩
  · rw [if_neg hfound] at h
    exact .inr ⟨hfound, (Sum.inl.inj h).symm⟩

theorem depthInv_turn (hknown : ∀ node, Reached links starts node → known node = true)
    {before after : Search α} (hinv : DepthInv links starts before)
    (h : Goes (depthTurn known links) before after) :
    DepthInv links starts after := by
  obtain ⟨node, work, hwork, hcase⟩ := depthTurn_cases hknown hinv h
  have hnode : Reached links starts node := hinv.work node (hwork ▸ List.mem_cons_self)
  have hrest : ∀ other ∈ work, Reached links starts other :=
    fun other hother => hinv.work other (hwork ▸ List.mem_cons_of_mem _ hother)
  -- nothing is lost: what was on the work is the node, or is on the work still
  have hkept : ∀ other, other ∈ before.found ∨ other ∈ before.work →
      other ∈ before.found ∨ other = node ∨ other ∈ work := by
    intro other hother
    rw [hwork, List.mem_cons] at hother
    exact hother
  rcases hcase with ⟨hmem, rfl⟩ | ⟨-, rfl⟩
  · have hstill : ∀ other, other ∈ before.found ∨ other ∈ before.work →
        other ∈ before.found ∨ other ∈ work := by
      intro other hother
      rcases hkept other hother with hfound | rfl | hother
      · exact .inl hfound
      · exact .inl hmem
      · exact .inr hother
    exact ⟨hrest, hinv.found, fun start hstart => hstill start (hinv.starts start hstart),
      fun node hnode other hother => hstill other (hinv.closed node hnode other hother)⟩
  · have hstill : ∀ other, other ∈ before.found ∨ other ∈ before.work →
        other ∈ insert node before.found ∨ other ∈ links node ++ work := by
      intro other hother
      rcases hkept other hother with hfound | rfl | hother
      · exact .inl (Finset.mem_insert_of_mem hfound)
      · exact .inl (Finset.mem_insert_self _ _)
      · exact .inr (List.mem_append_right _ hother)
    refine ⟨?_, ?_, fun start hstart => hstill start (hinv.starts start hstart), ?_⟩
    · intro other hother
      rcases List.mem_append.mp hother with hother | hother
      · exact hnode.link hother
      · exact hrest other hother
    · intro other hother
      rcases Finset.mem_insert.mp hother with rfl | hother
      · exact hnode
      · exact hinv.found other hother
    · intro other hother more hmore
      rcases Finset.mem_insert.mp hother with rfl | hother
      · exact .inr (List.mem_append_left _ hmore)
      · exact hstill more (hinv.closed other hother more hmore)

/-- The search ends, with all that is reached and no more. -/
theorem depth_ends (known : α → Bool) (links : α → List α) (starts : List α) (nodes : Finset α)
    (hknown : ∀ node, Reached links starts node → known node = true)
    (hnodes : ∀ node, Reached links starts node → node ∈ nodes) :
    ∃ result : Finset α, Ends (depthTurn known links) ⟨starts, ∅⟩ result ∧
      ∀ node, node ∈ result ↔ Reached links starts node := by
  obtain ⟨result, hends⟩ := ends_of_measure (depthTurn known links) (Search.left nodes)
    (DepthInv links starts) depthInv_init fun before after hinv h => by
      have hafter := depthInv_turn hknown hinv h
      refine ⟨hafter, ?_⟩
      obtain ⟨node, work, hwork, ⟨-, rfl⟩ | ⟨hnew, rfl⟩⟩ := depthTurn_cases hknown hinv h
      · exact Search.left_lt_of_work rfl (by simp [hwork])
      · exact Search.left_lt_of_found (fun node hnode => hnodes node (hafter.found node hnode))
          (Finset.ssubset_insert hnew)
  refine ⟨result, hends, ?_⟩
  refine hends.post (DepthInv links starts) (fun result => ∀ node, node ∈ result ↔
    Reached links starts node)
    depthInv_init (fun before after hinv h => depthInv_turn hknown hinv h) ?_
  intro search result hinv hresult node
  obtain ⟨work, found⟩ := search
  rcases work with _ | ⟨first, work⟩
  · obtain rfl : found = result := Sum.inr.inj hresult
    constructor
    · exact hinv.found node
    · refine mem_of_reached (fun start hstart => ?_) (fun node hnode other hother => ?_)
      · exact (hinv.starts start hstart).resolve_right List.not_mem_nil
      · exact (hinv.closed node hnode other hother).resolve_right List.not_mem_nil
  · simp only [depthTurn] at hresult
    split_ifs at hresult

end Depth

/-! ## Taking the links of a node -/

/-- One link of the node that is looked at. -/
def enqueue (search : Search α) (node : α) : Search α :=
  if node ∈ search.found then search else ⟨search.work ++ [node], insert node search.found⟩

def breadthTurn (links : α → List α) (search : Search α) : Search α ⊕ Finset α :=
  match search.work with
  | [] => .inr search.found
  | node :: work => .inl ((links node).foldl enqueue ⟨work, search.found⟩)

section Breadth
variable {links : α → List α} {start : α}

/-- What is enqueued is found, and put on the work where it is new. -/
theorem mem_foldl_enqueue (others : List α) (search : Search α) (node : α) :
    (node ∈ (others.foldl enqueue search).found ↔ node ∈ search.found ∨ node ∈ others) ∧
    (node ∈ (others.foldl enqueue search).work ↔
      node ∈ search.work ∨ node ∈ others ∧ node ∉ search.found) := by
  induction others generalizing search with
  | nil => simp
  | cons other others ih =>
    rw [List.foldl_cons]
    by_cases hfound : other ∈ search.found
    · have hsame : enqueue search other = search := if_pos hfound
      rw [hsame, (ih search).1, (ih search).2]
      constructor
      · constructor
        · rintro (h | h)
          · exact .inl h
          · exact .inr (List.mem_cons_of_mem _ h)
        · rintro (h | h)
          · exact .inl h
          · rcases List.mem_cons.mp h with rfl | h
            · exact .inl hfound
            · exact .inr h
      · constructor
        · rintro (h | ⟨h, hnew⟩)
          · exact .inl h
          · exact .inr ⟨List.mem_cons_of_mem _ h, hnew⟩
        · rintro (h | ⟨h, hnew⟩)
          · exact .inl h
          · rcases List.mem_cons.mp h with rfl | h
            · exact absurd hfound hnew
            · exact .inr ⟨h, hnew⟩
    · have hnext : enqueue search other = ⟨search.work ++ [other], insert other search.found⟩ :=
        if_neg hfound
      rw [hnext, (ih _).1, (ih _).2]
      simp only [Finset.mem_insert, List.mem_append, List.mem_cons]
      constructor
      · tauto
      · by_cases hnode : node = other
        · subst hnode
          tauto
        · tauto

/-- Where nothing is new the work stays. -/
theorem foldl_enqueue_eq {others : List α} {search : Search α}
    (h : ∀ node ∈ others, node ∈ search.found) :
    others.foldl enqueue search = search := by
  induction others with
  | nil => rfl
  | cons other others ih =>
    have hsame : enqueue search other = search := if_pos (h other List.mem_cons_self)
    rw [List.foldl_cons, hsame, ih fun node hnode => h node (List.mem_cons_of_mem _ hnode)]

/-- The nodes that were found are reached, and those off the work have their links found. -/
structure BreadthInv (links : α → List α) (start : α) (search : Search α) : Prop where
  begun : start ∈ search.found
  work : ∀ node ∈ search.work, node ∈ search.found
  found : ∀ node ∈ search.found, Reached links [start] node
  closed : ∀ node ∈ search.found, node ∈ search.work ∨ ∀ other ∈ links node, other ∈ search.found

omit [DecidableEq α] in
theorem breadthInv_init : BreadthInv links start ⟨[start], {start}⟩ where
  begun := Finset.mem_singleton_self start
  work _ hnode := Finset.mem_singleton.mpr (List.mem_singleton.mp hnode)
  found _ hnode := ⟨start, List.mem_singleton_self start, Finset.mem_singleton.mp hnode ▸ .refl⟩
  closed _ hnode := .inl (List.mem_singleton.mpr (Finset.mem_singleton.mp hnode))

theorem breadthInv_turn {before after : Search α} (hinv : BreadthInv links start before)
    (h : Goes (breadthTurn links) before after) : BreadthInv links start after := by
  obtain ⟨work, found⟩ := before
  rcases work with _ | ⟨first, work⟩
  · contradiction
  obtain rfl : (links first).foldl enqueue ⟨work, found⟩ = after := Sum.inl.inj h
  have hfirst : first ∈ found := hinv.work first List.mem_cons_self
  have hin := fun node => mem_foldl_enqueue (links first) ⟨work, found⟩ node
  refine ⟨(hin _).1.mpr (.inl hinv.begun), ?_, ?_, ?_⟩
  · intro node hnode
    rcases (hin node).2.mp hnode with hnode | ⟨hlink, -⟩
    · exact (hin node).1.mpr (.inl (hinv.work node (List.mem_cons_of_mem _ hnode)))
    · exact (hin node).1.mpr (.inr hlink)
  · intro node hnode
    rcases (hin node).1.mp hnode with hnode | hlink
    · exact hinv.found node hnode
    · exact (hinv.found first hfirst).link hlink
  · intro node hnode
    by_cases hold : node ∈ found
    · rcases hinv.closed node hold with hwork | hlinks
      · rcases List.mem_cons.mp hwork with rfl | hwork
        · exact .inr fun other hother => (hin other).1.mpr (.inr hother)
        · exact .inl ((hin node).2.mpr (.inl hwork))
      · exact .inr fun other hother => (hin other).1.mpr (.inl (hlinks other hother))
    · have hlink := ((hin node).1.mp hnode).resolve_left hold
      exact .inl ((hin node).2.mpr (.inr ⟨hlink, hold⟩))

/-- This search ends with the same nodes. -/
theorem breadth_ends (links : α → List α) (start : α) (nodes : Finset α)
    (hnodes : ∀ node, Reached links [start] node → node ∈ nodes) :
    ∃ result : Finset α, Ends (breadthTurn links) ⟨[start], {start}⟩ result ∧
      ∀ node, node ∈ result ↔ Reached links [start] node := by
  obtain ⟨result, hends⟩ := ends_of_measure (breadthTurn links) (Search.left nodes)
    (BreadthInv links start) breadthInv_init fun before after hinv h => by
      have hafter := breadthInv_turn hinv h
      refine ⟨hafter, ?_⟩
      obtain ⟨work, found⟩ := before
      rcases work with _ | ⟨first, work⟩
      · contradiction
      obtain rfl : (links first).foldl enqueue ⟨work, found⟩ = after := Sum.inl.inj h
      by_cases hnew : ∀ node ∈ links first, node ∈ found
      · rw [foldl_enqueue_eq hnew]
        exact Search.left_lt_of_work rfl (by simp)
      · obtain ⟨node, hlink, hnode⟩ : ∃ node ∈ links first, node ∉ found := by
          simpa only [not_forall, exists_prop] using hnew
        have hin := fun node => (mem_foldl_enqueue (links first) ⟨work, found⟩ node).1
        refine Search.left_lt_of_found (fun node hnode => hnodes node (hafter.found node hnode)) ?_
        exact (Finset.ssubset_iff_of_subset fun node hnode => (hin node).mpr (.inl hnode)).mpr
          ⟨node, (hin node).mpr (.inr hlink), hnode⟩
  refine ⟨result, hends, ?_⟩
  refine hends.post (BreadthInv links start) (fun result => ∀ node, node ∈ result ↔
    Reached links [start] node)
    breadthInv_init (fun before after hinv h => breadthInv_turn hinv h) ?_
  intro search result hinv hresult node
  obtain ⟨work, found⟩ := search
  rcases work with _ | ⟨first, work⟩
  · obtain rfl : found = result := Sum.inr.inj hresult
    constructor
    · exact hinv.found node
    · refine mem_of_reached (fun other hother => ?_) (fun node hnode => ?_)
      · exact List.mem_singleton.mp hother ▸ hinv.begun
      · exact (hinv.closed node hnode).resolve_left List.not_mem_nil
  · contradiction

end Breadth

/-! ## Following one link -/

/-- `look` goes on to another node or answers. -/
def chainTurn (look : α → α ⊕ Bool) (state : α × Finset α) : (α × Finset α) ⊕ Bool :=
  if state.1 ∈ state.2 then .inr false
  else match look state.1 with
    | .inl next => .inl (next, insert state.1 state.2)
    | .inr answer => .inr answer

section Chain
variable {look : α → α ⊕ Bool} {start : α}

theorem chainTurn_goes {before after : α × Finset α} : Goes (chainTurn look) before after ↔
    before.1 ∉ before.2 ∧ look before.1 = .inl after.1 ∧ after.2 = insert before.1 before.2 := by
  rw [Goes, chainTurn]
  by_cases hseen : before.1 ∈ before.2
  · simp [hseen]
  rw [if_neg hseen]
  rcases look before.1 with next | answer
  · simp only [Sum.inl.injEq, Prod.ext_iff, hseen, not_false_eq_true, true_and]
    exact and_congr_right' eq_comm
  · simp

/-- A chain through finitely many nodes ends. -/
theorem chain_ends (look : α → α ⊕ Bool) (nodes : Finset α)
    (hnodes : ∀ node next, look node = .inl next → node ∈ nodes) (start : α) :
    ∃ answer, Ends (chainTurn look) (start, ∅) answer := by
  refine ends_of_measure (chainTurn look) (fun state => nodes.card - state.2.card)
    (fun state => state.2 ⊆ nodes)
    (Finset.empty_subset nodes) fun before after hin h => ?_
  obtain ⟨hnew, hlook, hseen⟩ := chainTurn_goes.mp h
  have hafter : after.2 ⊆ nodes := by
    rw [hseen]
    exact Finset.insert_subset (hnodes _ _ hlook) hin
  have hle := Finset.card_le_card hafter
  rw [hseen, Finset.card_insert_of_notMem hnew] at hle
  refine ⟨hafter, ?_⟩
  rw [hseen, Finset.card_insert_of_notMem hnew]
  omega

/-- What holds where the chain answers yes, goes with the chain, and holds nowhere on a cycle of it,
is what the chain answers. -/
theorem chain_answer (Holds : α → Prop)
    (hanswer : ∀ node answer, look node = .inr answer → (answer = true ↔ Holds node))
    (hnext : ∀ node next, look node = .inl next → (Holds node ↔ Holds next))
    (hcycle : ∀ seen : Finset α, (∀ node ∈ seen, ∃ next ∈ seen, look node = .inl next) →
      ∀ node ∈ seen, ¬Holds node)
    {answer : Bool} (hends : Ends (chainTurn look) (start, ∅) answer) : answer = true ↔
      Holds start := by
  -- of every node seen the chain went on, to one seen or to the current one
  refine hends.post
    (fun state => (Holds start ↔ Holds state.1) ∧
      ∀ node ∈ state.2, ∃ next, look node = .inl next ∧ (next ∈ state.2 ∨ next = state.1))
    (fun answer => answer = true ↔ Holds start) ⟨Iff.rfl, nofun⟩ ?_ ?_
  · rintro before after ⟨hsame, hseen⟩ h
    obtain ⟨-, hlook, hafter⟩ := chainTurn_goes.mp h
    refine ⟨hsame.trans (hnext _ _ hlook), ?_⟩
    rw [hafter]
    intro node hnode
    rcases Finset.mem_insert.mp hnode with rfl | hnode
    · exact ⟨after.1, hlook, .inr rfl⟩
    · obtain ⟨next, hgo, hin | rfl⟩ := hseen node hnode
      · exact ⟨next, hgo, .inl (Finset.mem_insert_of_mem hin)⟩
      · exact ⟨before.1, hgo, .inl (Finset.mem_insert_self _ _)⟩
  · rintro ⟨current, seen⟩ answer ⟨hsame, hseen⟩ hresult
    rw [chainTurn] at hresult
    by_cases hback : current ∈ seen
    · rw [if_pos hback] at hresult
      obtain rfl : false = answer := Sum.inr.inj hresult
      have hno : ¬Holds current := by
        refine hcycle seen (fun node hnode => ?_) current hback
        obtain ⟨next, hgo, hin | rfl⟩ := hseen node hnode
        · exact ⟨next, hin, hgo⟩
        · exact ⟨next, hback, hgo⟩
      rw [hsame]
      exact ⟨nofun, fun h => absurd h hno⟩
    · rw [if_neg hback] at hresult
      rw [hsame]
      rcases hlook : look current with next | found
      · rw [hlook] at hresult
        contradiction
      · rw [hlook] at hresult
        obtain rfl : found = answer := Sum.inr.inj hresult
        exact hanswer current found hlook

end Chain

/-! ## Going down every link -/

/-- A recursion over the links of a node is over in so many levels. -/
def Descends (links : α → List α) : Nat → α → Prop
  | 0, _ => False
  | fuel + 1, node => ∀ other ∈ links node, Descends links fuel other

section Descent
variable {links : α → List α} {node : α}

omit [DecidableEq α]

theorem Descends.mono {fuel more : Nat} (hle : fuel ≤ more) {node : α}
    (h : Descends links fuel node) :
    Descends links more node := by
  induction fuel generalizing more node with
  | zero => exact h.elim
  | succ fuel ih =>
    obtain ⟨more, rfl⟩ : ∃ k, more = k + 1 := ⟨more - 1, by omega⟩
    intro other hlink
    exact ih (by omega) (h other hlink)

/-- Enough for each link is enough for the node. -/
theorem descends_of_links (h : ∀ other ∈ links node, ∃ fuel, Descends links fuel other) :
    ∃ fuel, Descends links fuel node := by
  have hall : ∀ others : List α, (∀ other ∈ others, ∃ fuel, Descends links fuel other) →
      ∃ fuel, ∀ other ∈ others, Descends links fuel other := by
    intro others hothers
    induction others with
    | nil => exact ⟨0, nofun⟩
    | cons first others ih =>
      obtain ⟨m, hm⟩ := hothers first List.mem_cons_self
      obtain ⟨n, hn⟩ := ih fun other hother => hothers other (List.mem_cons_of_mem _ hother)
      refine ⟨max m n, fun other hother => ?_⟩
      rcases List.mem_cons.mp hother with rfl | hother
      · exact hm.mono (Nat.le_max_left m n)
      · exact (hn other hother).mono (Nat.le_max_right m n)
  obtain ⟨fuel, hfuel⟩ := hall (links node) h
  exact ⟨fuel + 1, hfuel⟩

theorem not_descends_of_cycle {again : α} (hreach : ReflTransGen (Link links) node again)
    (hcycle : TransGen (Link links) again again) (fuel : Nat) : ¬Descends links fuel node := by
  induction fuel generalizing node with
  | zero => exact id
  | succ fuel ih =>
    intro h
    rcases ReflTransGen.cases_head hreach with rfl | ⟨other, hlink, hrest⟩
    · obtain ⟨other, hlink, hrest⟩ := TransGen.head'_iff.mp hcycle
      exact ih hrest (h other hlink)
    · exact ih hrest (h other hlink)

open Classical in
/-- Where a recursion is not over, one of the links is to blame: the loop that follows it. -/
noncomputable def blamed (links : α → List α) (node : α) : α ⊕ Unit :=
  if h : ∃ other ∈ links node, ∀ fuel, ¬Descends links fuel other then .inl h.choose else .inr ()

theorem blamed_goes {other : α} (h : Goes (blamed links) node other) :
    other ∈ links node ∧ ∀ fuel, ¬Descends links fuel other := by
  rw [Goes, blamed] at h
  split_ifs at h with hex
  obtain rfl := Sum.inl.inj h
  exact hex.choose_spec

theorem not_ends_blamed (h : ∀ fuel, ¬Descends links fuel node) (result : Unit) :
    ¬Ends (blamed links) node result := by
  refine not_ends_of_closed (fun node => ∀ fuel, ¬Descends links fuel node) ?_ h result
  intro node hnode
  have hex : ∃ other ∈ links node, ∀ fuel, ¬Descends links fuel other := by
    by_contra hno
    obtain ⟨fuel, hfuel⟩ := descends_of_links fun other (hlink : other ∈ links node) => by
      by_contra hfuel
      exact hno ⟨other, hlink, fun fuel hdesc => hfuel ⟨fuel, hdesc⟩⟩
    exact hnode fuel hfuel
  exact ⟨hex.choose, dif_pos hex, hex.choose_spec.2⟩

/-- A recursion is over exactly if it comes to no cycle. -/
theorem descends_iff_no_cycle {nodes : Set α} (hfinite : nodes.Finite)
    (hnodes : ∀ node other, other ∈ links node → node ∈ nodes) (node : α) :
    (∃ fuel, Descends links fuel node) ↔
      ¬∃ again, ReflTransGen (Link links) node again ∧ TransGen (Link links) again again := by
  constructor
  · rintro ⟨fuel, hfuel⟩ ⟨again, hreach, hcycle⟩
    exact not_descends_of_cycle hreach hcycle fuel hfuel
  · intro hno
    by_contra hfuel
    obtain ⟨again, hreach, hcycle⟩ := exists_cycle_of_not_ends (blamed links) hfinite
      (fun node other h => hnodes node other (blamed_goes h).1)
      (not_ends_blamed fun fuel hdesc => hfuel ⟨fuel, hdesc⟩)
    have hlinks : ∀ node other, Goes (blamed links) node other → Link links node other :=
      fun node other h => (blamed_goes h).1
    exact hno ⟨again, ReflTransGen.mono hlinks _ _ hreach, TransGen.mono hlinks _ _ hcycle⟩

end Descent

end GraphSearch
