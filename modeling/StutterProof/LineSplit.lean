import Mathlib.Data.List.Basic

/-! # Lines of a stream

The finished lines of a stream and the piece after the last of them.  Reading in pieces finds the
same lines as reading at once (`feed_eq`). -/
namespace LineSplit

variable {α β : Type} [DecidableEq α] [DecidableEq β]

/-- The finished lines, without their separators, and what is left. -/
def lines (separator : α) : List α → List (List α) × List α
  | [] => ([], [])
  | a :: rest =>
    if a = separator then ([] :: (lines separator rest).1, (lines separator rest).2)
    else match (lines separator rest).1 with
      | [] => ([], a :: (lines separator rest).2)
      | line :: more => ((a :: line) :: more, (lines separator rest).2)

/-- One read after the other, with what the last one left. -/
def feed (separator : α) (pending : List α) : List (List α) → List (List α) × List α
  | [] => ([], pending)
  | chunk :: chunks =>
    let found := lines separator (pending ++ chunk)
    let later := feed separator found.2 chunks
    (found.1 ++ later.1, later.2)

variable {separator : α}

theorem lines_separator (rest : List α) :
    lines separator (separator :: rest) =
      ([] :: (lines separator rest).1, (lines separator rest).2) := by
  rw [lines, if_pos rfl]

theorem lines_cons_of_nil {a : α} {rest : List α} (ha : a ≠ separator)
    (h : (lines separator rest).1 = []) :
    lines separator (a :: rest) = ([], a :: (lines separator rest).2) := by
  rw [lines, if_neg ha, h]

theorem lines_cons_of_cons {a : α} {rest line : List α} {more : List (List α)} (ha : a ≠ separator)
    (h : (lines separator rest).1 = line :: more) :
    lines separator (a :: rest) = ((a :: line) :: more, (lines separator rest).2) := by
  rw [lines, if_neg ha, h]

theorem lines_of_not_mem {text : List α} (h : separator ∉ text) :
    lines separator text = ([], text) := by
  induction text with
  | nil => rfl
  | cons a rest ih =>
    obtain ⟨ha, hrest⟩ := not_or.mp (mt List.mem_cons.mpr h)
    rw [lines_cons_of_nil (Ne.symm ha) (by rw [ih hrest]), ih hrest]

/-- A line and what follows it. -/
theorem lines_append_separator {line : List α} (h : separator ∉ line) (rest : List α) :
    lines separator (line ++ separator :: rest) =
      (line :: (lines separator rest).1, (lines separator rest).2) := by
  induction line with
  | nil => exact lines_separator rest
  | cons a line ih =>
    obtain ⟨ha, hline⟩ := not_or.mp (mt List.mem_cons.mpr h)
    have hcons : (lines separator (line ++ separator :: rest)).1 =
        line :: (lines separator rest).1 := by
      rw [ih hline]
    rw [List.cons_append, lines_cons_of_cons (Ne.symm ha) hcons, ih hline]

variable (text : List α)

/-- What is left holds no separator. -/
theorem not_mem_left : separator ∉ (lines separator text).2 := by
  induction text with
  | nil => simp [lines]
  | cons a rest ih =>
    by_cases ha : a = separator
    · rw [ha, lines_separator]
      exact ih
    · cases hcomplete : (lines separator rest).1 with
      | nil =>
        rw [lines_cons_of_nil ha hcomplete]
        exact fun hmem => (List.mem_cons.mp hmem).elim (fun heq => ha heq.symm) ih
      | cons line more =>
        rw [lines_cons_of_cons ha hcomplete]
        exact ih

theorem not_mem_lines : ∀ line ∈ (lines separator text).1, separator ∉ line := by
  induction text with
  | nil => simp [lines]
  | cons a rest ih =>
    by_cases ha : a = separator
    · rw [ha, lines_separator]
      exact List.forall_mem_cons.mpr ⟨List.not_mem_nil, ih⟩
    · cases hcomplete : (lines separator rest).1 with
      | nil =>
        rw [lines_cons_of_nil ha hcomplete]
        simp
      | cons line more =>
        rw [lines_cons_of_cons ha hcomplete]
        rw [hcomplete, List.forall_mem_cons] at ih
        refine List.forall_mem_cons.mpr ⟨fun hmem => ?_, ih.2⟩
        exact (List.mem_cons.mp hmem).elim (fun heq => ha heq.symm) ih.1

/-- The stream is its lines, each with a separator, and what is left. -/
theorem flatMap_lines :
    (lines separator text).1.flatMap (· ++ [separator]) ++ (lines separator text).2 = text := by
  induction text with
  | nil => rfl
  | cons a rest ih =>
    by_cases ha : a = separator
    · rw [ha, lines_separator, List.flatMap_cons, List.nil_append, List.singleton_append,
        List.cons_append, ih]
    · cases hcomplete : (lines separator rest).1 with
      | nil =>
        rw [hcomplete, List.flatMap_nil, List.nil_append] at ih
        rw [lines_cons_of_nil ha hcomplete, List.flatMap_nil, List.nil_append, ih]
      | cons line more =>
        rw [hcomplete, List.flatMap_cons] at ih
        rw [lines_cons_of_cons ha hcomplete, List.flatMap_cons, List.cons_append, List.cons_append,
          List.cons_append, ih]

/-- Lines are found in order: first those of the front, then those of what it leaves and the
rest. -/
theorem lines_append (front rest : List α) :
    lines separator (front ++ rest) =
      ((lines separator front).1 ++ (lines separator ((lines separator front).2 ++ rest)).1,
        (lines separator ((lines separator front).2 ++ rest)).2) := by
  have hlines : ∀ found : List (List α), (∀ line ∈ found, separator ∉ line) → ∀ after,
      lines separator (found.flatMap (· ++ [separator]) ++ after) =
        (found ++ (lines separator after).1, (lines separator after).2) := by
    intro found hfound after
    induction found with
    | nil => rfl
    | cons line found ih =>
      obtain ⟨hline, hfound⟩ := List.forall_mem_cons.mp hfound
      rw [List.flatMap_cons, List.append_assoc, List.append_assoc, List.singleton_append,
        lines_append_separator hline, ih hfound, List.cons_append]
  have hfront :=
    hlines (lines separator front).1 (not_mem_lines front) ((lines separator front).2 ++ rest)
  rw [← List.append_assoc, flatMap_lines] at hfront
  exact hfront

/-- **Reading in pieces finds the lines of the whole.** -/
theorem feed_eq (pending : List α) (chunks : List (List α)) (hpending : separator ∉ pending) :
    feed separator pending chunks = lines separator (pending ++ chunks.flatten) := by
  induction chunks generalizing pending with
  | nil => rw [feed, List.flatten_nil, List.append_nil, lines_of_not_mem hpending]
  | cons chunk chunks ih =>
    rw [feed, List.flatten_cons, ← List.append_assoc, lines_append (pending ++ chunk),
      ih _ (not_mem_left _)]

/-- Lines of an encoded stream, where only the separator is written with the separator. -/
theorem lines_flatMap {encode : α → List β} {mark : β} (hmark : encode separator = [mark])
    (hother : ∀ a, a ≠ separator → mark ∉ encode a) (text : List α) :
    lines mark (text.flatMap encode) =
      ((lines separator text).1.map (·.flatMap encode),
        (lines separator text).2.flatMap encode) := by
  have hline : ∀ line : List α, separator ∉ line → mark ∉ line.flatMap encode := by
    intro line hline hmem
    obtain ⟨a, ha, hmark⟩ := List.mem_flatMap.mp hmem
    exact hother a (fun heq => hline (heq ▸ ha)) hmark
  have hlines : ∀ found : List (List α), (∀ line ∈ found, separator ∉ line) →
      ∀ left, separator ∉ left →
      lines mark ((found.flatMap (· ++ [separator]) ++ left).flatMap encode) =
        (found.map (·.flatMap encode), left.flatMap encode) := by
    intro found hfound left hleft
    induction found with
    | nil => exact lines_of_not_mem (hline left hleft)
    | cons line found ih =>
      obtain ⟨hfirst, hfound⟩ := List.forall_mem_cons.mp hfound
      rw [List.flatMap_cons, List.append_assoc, List.append_assoc, List.flatMap_append,
        List.singleton_append,
        List.flatMap_cons, hmark, List.singleton_append, lines_append_separator (hline line hfirst),
        ih hfound, List.map_cons]
  have htext :=
    hlines (lines separator text).1 (not_mem_lines text)
      (lines separator text).2 (not_mem_left text)
  rw [flatMap_lines] at htext
  exact htext

/-! ## Lines of a text -/

/-- The lines of a whole text: a line that ends loses its newline, and one carriage return before
it. -/
def strLines (content : List Char) : List (List Char) :=
  let found := lines '\n' content
  found.1.map (fun line => if line.getLast? = some '\r' then line.dropLast else line) ++
    (if found.2.isEmpty then [] else [found.2])

theorem newline_not_mem_strLines (content : List Char) :
    ∀ line ∈ strLines content, '\n' ∉ line := by
  intro line hmem
  rcases List.mem_append.mp hmem with hmem | hmem
  · obtain ⟨whole, hwhole, rfl⟩ := List.mem_map.mp hmem
    have hnone : '\n' ∉ whole := not_mem_lines content whole hwhole
    split
    · exact fun hnewline => hnone ((List.dropLast_sublist whole).subset hnewline)
    · exact hnone
  · split at hmem
    · contradiction
    · obtain rfl := List.mem_singleton.mp hmem
      exact not_mem_left content

/-- Lines that were written one after the other. -/
theorem strLines_flatMap {written : List (List Char)}
    (h : ∀ line ∈ written, '\n' ∉ line ∧ line.getLast? ≠ some '\r') :
    strLines (written.flatMap (· ++ ['\n'])) = written := by
  have hlines : lines '\n' (written.flatMap (· ++ ['\n'])) = (written, []) := by
    induction written with
    | nil => rfl
    | cons line written ih =>
      have hrest := ih fun other hmem => h other (List.mem_cons_of_mem line hmem)
      simp only [List.flatMap_cons, List.append_assoc, List.singleton_append]
      rw [lines_append_separator (h line List.mem_cons_self).1, hrest]
  rw [strLines, hlines]
  exact (List.append_nil _).trans
    ((List.map_congr_left fun line hmem => if_neg (h line hmem).2).trans (List.map_id _))

end LineSplit
