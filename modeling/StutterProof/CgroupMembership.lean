import StutterProof.CpuMaskWords
import StutterProof.LastGreatest
import StutterProof.RestorePaths
import StutterProof.TextLaws

/-! # Reading a task's cgroup

`/proc/<pid>/cgroup` has a line for each hierarchy: an id, controllers and a path, between colons.
Three parsers read it.  All of them cut a line at its last colon, the action and the process table
take the longest of the pieces, the collector the first.  None looks at which line is the unified
one. -/
namespace Stutter.Cgroup

open ActiveConfig (trim splitOnce)
open LastGreatest (maxByKey maxByKey_eq_some maxByKey_filter maxByKey_map)
open RestorePaths (pathComponents normalizeCgroupPath)

/-! ## The parsers -/

/-- The end of a line may be `\r\n`. -/
def stripCarriage (line : List Char) : List Char :=
  if line.getLast? = some '\r' then line.dropLast else line

/-- `str::lines`: the last line may lack its end. -/
def textLines (text : List Char) : List (List Char) :=
  let pieces := text.splitOn '\n'
  pieces.dropLast.map stripCarriage ++ (pieces.getLast?.filter (· ≠ [])).toList

/-- `str::rsplit_once`. -/
def rsplitOnce (separator : Char) (text : List Char) : Option (List Char × List Char) :=
  (splitOnce separator text.reverse).map fun parts => (parts.2.reverse, parts.1.reverse)

/-- What all three take of a line. -/
def lineTail (line : List Char) : Option (List Char) :=
  (rsplitOnce ':' line).map fun parts => trim parts.2

/-- `str::len`. -/
def byteLen (text : List Char) : Nat := (text.map Char.utf8Size).sum

/-- The longest of the pieces that are not empty. -/
def longestTail (contents : List Char) : Option (List Char) :=
  maxByKey byteLen (((textLines contents).filterMap lineTail).filter (· ≠ []))

def cgroupFile (procRoot : String) (pid : Nat) : String :=
  RestorePaths.joinPath (RestorePaths.joinPath procRoot (toString pid)) "cgroup"

/-- `read_proc_cgroup_path_at` of the cgroup action, on what `read_to_string` gave. -/
def Action.readProcCgroupPathAt (procRoot : String) (tid : Nat)
    (read : Except AnyError (List Char)) :
    Except AnyError (List String) :=
  match read with
  | .error error => .error (error.context s!"failed to read {cgroupFile procRoot tid}")
  | .ok contents =>
    match longestTail contents with
    | none => .error (.message "proc cgroup file did not contain a cgroup v2 path")
    | some path => normalizeCgroupPath (String.ofList path) (pathComponents (String.ofList path))

/-- `read_proc_cgroup_path_at` of the process table, with the text of its warning. -/
def ProcessTable.readProcCgroupPathAt (procRoot : String) (pid : Nat)
    (read : Except AnyError (List Char)) :
    String × Option String :=
  match read with
  | .error error => ("", some s!"failed to read {cgroupFile procRoot pid}: {error.text}")
  | .ok contents => (String.ofList ((longestTail contents).getD []), none)

/-- `read_cgroup` of the collector. -/
def readCgroup (read : Except AnyError (List Char)) : Option String :=
  match read with
  | .error _ => none
  | .ok contents => ((textLines contents).findSome? lineTail).map String.ofList

/-! ## What the kernel shows -/

/-- The path of a cgroup, below the root of its hierarchy. -/
def pathText (names : List (List Char)) : List Char :=
  if names = [] then ['/'] else names.flatMap ('/' :: ·)

/-- A directory's name. -/
def IsName (name : List Char) : Prop := name ≠ [] ∧ name ≠ ['.'] ∧ name ≠ ['.', '.'] ∧ '/' ∉ name

instance (name : List Char) : Decidable (IsName name) := inferInstanceAs (Decidable (_ ∧ _))

/-- One line: the unified hierarchy has id 0 and no controllers. -/
structure Membership where
  hierarchy : Nat
  controllers : List Char
  names : List (List Char)
  controllers_line : '\n' ∉ controllers
  names_line : ∀ name ∈ names, '\n' ∉ name
  names_ok : ∀ name ∈ names, IsName name

namespace Membership

def path (line : Membership) : List Char := pathText line.names

def text (line : Membership) : List Char :=
  Nat.toDigits 10 line.hierarchy ++ ':' :: line.controllers ++ ':' :: line.path

def Unified (line : Membership) : Prop := line.hierarchy = 0 ∧ line.controllers = []

/-- What follows the last colon of the path, with no blanks around it. -/
def shown (line : Membership) : List Char := trim (line.path.reverse.takeWhile (· ≠ ':')).reverse

end Membership

/-- The file. -/
def fileText (lines : List Membership) : List Char := lines.flatMap fun line => line.text ++ ['\n']

/-! ## Lines -/

section Lines
variable {line : Membership}

theorem takeWhile_append_stop {p : Char → Bool} {stop : Char} (hstop : p stop = false)
    (xs rest : List Char) :
    (xs ++ stop :: rest).takeWhile p = xs.takeWhile p := by
  induction xs with
  | nil => exact List.takeWhile_cons_of_neg (by simp [hstop])
  | cons x xs ih =>
    by_cases hx : p x = true
    · rw [List.cons_append, List.takeWhile_cons_of_pos hx, ih, List.takeWhile_cons_of_pos hx]
    · rw [List.cons_append, List.takeWhile_cons_of_neg hx, List.takeWhile_cons_of_neg hx]

/-- Only what is behind the last colon is taken. -/
theorem lineTail_append (start rest : List Char) : lineTail (start ++ ':' :: rest) =
    some (trim (rest.reverse.takeWhile (· ≠ ':')).reverse) := by
  have hreverse : (start ++ ':' :: rest).reverse = rest.reverse ++ ':' :: start.reverse := by simp
  have hne : (rest.reverse ++ ':' :: start.reverse).dropWhile (· ≠ ':') ≠ [] := by
    rw [ne_eq, List.dropWhile_eq_nil_iff]
    intro hall
    have hcolon := hall ':' (by simp)
    simp at hcolon
  rw [lineTail, rsplitOnce, splitOnce, hreverse]
  rcases hdrop : (rest.reverse ++ ':' :: start.reverse).dropWhile (· ≠ ':') with _ | ⟨c, after⟩
  · exact absurd hdrop hne
  · simp only [Option.map_some,
      takeWhile_append_stop (p := (decide <| · ≠ ':')) (by decide : decide (':' ≠ ':') = false)]

theorem pathText_ne_nil (names : List (List Char)) : pathText names ≠ [] := by
  rcases names with _ | ⟨name, names⟩
  · simp [pathText]
  · simp [pathText]

theorem newline_not_mem_pathText {names : List (List Char)} (h : ∀ name ∈ names, '\n' ∉ name) :
    '\n' ∉ pathText names := by
  rw [pathText]
  split_ifs
  · decide
  · intro hmem
    obtain ⟨name, hname, hin⟩ := List.mem_flatMap.mp hmem
    rcases List.mem_cons.mp hin with hslash | hin
    · revert hslash
      decide
    · exact h name hname hin

theorem newline_not_mem_text : '\n' ∉ line.text := by
  have hpath := newline_not_mem_pathText line.names_line
  have hdigits : '\n' ∉ Nat.toDigits 10 line.hierarchy :=
    Affinity.CpuMask.not_mem_toDigits (by decide) _
  simp only [Membership.text, Membership.path, List.mem_append, List.mem_cons, not_or]
  exact ⟨⟨hdigits, by decide, line.controllers_line⟩, by decide, hpath⟩

/-- Nothing else of a line is read. -/
theorem lineTail_text (line : Membership) :
    lineTail (stripCarriage line.text) = some line.shown := by
  have hne : line.path ≠ [] := pathText_ne_nil line.names
  rw [stripCarriage]
  by_cases hlast : line.text.getLast? = some '\r'
  · obtain ⟨start, hpath⟩ : ∃ start, line.path = start ++ ['\r'] := by
      rw [Membership.text, List.getLast?_append_of_ne_nil _ (List.cons_ne_nil _ _),
        List.getLast?_cons_of_ne_nil hne] at hlast
      exact ⟨line.path.dropLast, (List.dropLast_append_getLast? _ hlast).symm⟩
    have hcut : line.text.dropLast =
        (Nat.toDigits 10 line.hierarchy ++ ':' :: line.controllers) ++ ':' :: start := by
      rw [Membership.text, hpath, ← List.cons_append, ← List.append_assoc, List.dropLast_concat]
    rw [if_pos hlast, hcut, lineTail_append, Membership.shown, hpath, List.reverse_concat,
      List.takeWhile_cons_of_pos (by decide), List.reverse_cons,
      TextLaws.trim_append_blank (by decide)]
  · rw [if_neg hlast, Membership.text, lineTail_append, Membership.shown]

theorem textLines_fileText (lines : List Membership) :
    textLines (fileText lines) = lines.map fun line => stripCarriage line.text := by
  induction lines with
  | nil => rfl
  | cons line lines ih =>
    have hfile : fileText (line :: lines) =
        line.text ++ '\n' :: fileText lines := by simp [fileText]
    have hne : (fileText lines).splitOn '\n' ≠ [] := List.splitOn_ne_nil _ _
    simp only [textLines] at ih
    simp only [textLines]
    rw [hfile, List.splitOn_append_cons_self_of_not_mem newline_not_mem_text,
      List.dropLast_cons_of_ne_nil hne, List.getLast?_cons_of_ne_nil hne, List.map_cons,
      List.cons_append, ih, List.map_cons]

theorem tails_fileText (lines : List Membership) :
    (textLines (fileText lines)).filterMap lineTail = lines.map (·.shown) := by
  rw [textLines_fileText, List.filterMap_map]
  have hsome : (lineTail ∘ fun line : Membership => stripCarriage line.text) = fun line =>
      some line.shown :=
    funext lineTail_text
  rw [hsome, List.filterMap_eq_map']

end Lines

/-! ## Paths -/

section Paths
variable {names : List (List Char)}

theorem slash_not_mem_of_mem_splitOn {text piece : List Char} (h : piece ∈ text.splitOn '/') :
    '/' ∉ piece := by
  induction text generalizing piece with
  | nil =>
    rw [List.splitOn_nil, List.mem_singleton] at h
    subst h
    exact List.not_mem_nil
  | cons c text ih =>
    rw [List.splitOn_cons_eq_if_modifyHead] at h
    split_ifs at h with hc
    · rcases List.mem_cons.mp h with rfl | h
      · exact List.not_mem_nil
      · exact ih h
    · rcases hsplit : text.splitOn '/' with _ | ⟨first, rest⟩
      · exact absurd hsplit (List.splitOn_ne_nil _ _)
      rw [hsplit, List.modifyHead_cons] at h
      rcases List.mem_cons.mp h with rfl | h
      · have hfirst : '/' ∉ first := ih (by simp [hsplit])
        rw [List.mem_cons, not_or]
        refine ⟨?_, hfirst⟩
        rintro rfl
        exact hc (beq_self_eq_true _)
      · exact ih (by simp [hsplit, h])

/-- A name as a component of a path. -/
theorem IsName.component {name : List Char} (h : IsName name) :
    String.ofList name ≠ "" ∧ String.ofList name ≠ "." ∧ String.ofList name ≠ ".." ∧
      String.ofList name ≠ "/" := by
  obtain ⟨hne, hdot, hparent, hslash⟩ := h
  refine ⟨?_, ?_, ?_, ?_⟩ <;> intro heq <;> have hname := congrArg String.toList heq <;>
    rw [String.toList_ofList] at hname
  · exact hne hname
  · exact hdot hname
  · exact hparent hname
  · exact hslash (hname ▸ List.mem_cons_self)

theorem pathComponents_pathText (h : ∀ name ∈ names, IsName name) :
    pathComponents (String.ofList (pathText names)) = "/" :: names.map String.ofList := by
  by_cases hnil : names = []
  · subst hnil
    decide
  have htext : pathText names = ['/'].intercalate ([] :: names) := by
    rw [pathText, if_neg hnil, TextLaws.intercalate_cons, List.nil_append]
  have hsplit : (pathText names).splitOn '/' = [] :: names := by
    rw [htext, List.splitOn_intercalate]
    · intro name hname
      rcases List.mem_cons.mp hname with rfl | hname
      · exact List.not_mem_nil
      · exact (h name hname).2.2.2
    · exact List.cons_ne_nil _ _
  have hhead : (pathText names).head? = some '/' := by
    rcases names with _ | ⟨name, names⟩
    · contradiction
    · rfl
  simp only [pathComponents, String.toList_ofList, hsplit, hhead, if_true, List.map_cons]
  rw [List.filter_cons_of_neg (by simp), List.singleton_append]
  congr 1
  refine List.filter_eq_self.mpr fun part hpart => ?_
  obtain ⟨name, hname, rfl⟩ := List.mem_map.mp hpart
  have hcomponent := (h name hname).component
  simp [hcomponent]

theorem normalize_pathText (shown : String) (h : ∀ name ∈ names, IsName name) :
    normalizeCgroupPath shown (pathComponents (String.ofList (pathText names))) =
      .ok (names.map String.ofList) := by
  rw [pathComponents_pathText h, normalizeCgroupPath, if_neg]
  · rw [List.filter_cons_of_neg (by simp)]
    congr 1
    refine List.filter_eq_self.mpr fun part hpart => ?_
    obtain ⟨name, hname, rfl⟩ := List.mem_map.mp hpart
    have hcomponent := (h name hname).component
    simp [hcomponent]
  · intro hmem
    rcases List.mem_cons.mp hmem with hslash | hmem
    · revert hslash
      decide
    · obtain ⟨name, hname, heq⟩ := List.mem_map.mp hmem
      exact (h name hname).component.2.2.1 heq

/-- What a path is normalized to is made of names. -/
theorem isName_of_normalize {shown text : String} {components : List String}
    (h : normalizeCgroupPath shown (pathComponents text) = .ok components) {part : String}
    (hpart : part ∈ components) :
    IsName part.toList := by
  rw [normalizeCgroupPath] at h
  split_ifs at h with hparent
  obtain rfl := Except.ok.inj h
  obtain ⟨hmem, hkeep⟩ := List.mem_filter.mp hpart
  obtain ⟨hroot, hdot⟩ := of_decide_eq_true hkeep
  have hne : part ≠ ".." := by
    rintro rfl
    exact hparent hmem
  have hpiece : part ∈ ((text.toList.splitOn '/').map String.ofList).filter fun part => part ≠ "" ∧
      part ≠ "." := by
    simp only [pathComponents] at hmem
    rcases List.mem_append.mp hmem with hstart | hmem
    · split_ifs at hstart
      · exact absurd (List.mem_singleton.mp hstart) hroot
      · exact absurd (List.mem_singleton.mp hstart) hdot
      · exact absurd hstart List.not_mem_nil
    · exact hmem
  obtain ⟨hpieces, hfull⟩ := List.mem_filter.mp hpiece
  obtain ⟨piece, hsplit, rfl⟩ := List.mem_map.mp hpieces
  obtain ⟨hempty, -⟩ := of_decide_eq_true hfull
  rw [String.toList_ofList]
  refine ⟨?_, ?_, ?_, slash_not_mem_of_mem_splitOn hsplit⟩
  · rintro rfl
    exact hempty rfl
  · rintro rfl
    exact hdot rfl
  · rintro rfl
    exact hne rfl

end Paths

/-! ## One path for all -/

section Answers
variable {lines : List Membership} {procRoot : String} {pid : Nat}

theorem byteLen_pos {text : List Char} : 0 < byteLen text ↔ text ≠ [] := by
  rcases text with _ | ⟨c, text⟩
  · simp [byteLen]
  · have hc := Char.utf8Size_pos c
    simp only [byteLen, List.map_cons, List.sum_cons]
    constructor
    · intro _
      exact List.cons_ne_nil _ _
    · intro _
      omega

theorem longestTail_fileText (lines : List Membership) : longestTail (fileText lines) =
    ((maxByKey (fun line => byteLen line.shown) lines).map (·.shown)).filter fun text =>
      0 < byteLen text := by
  have hfilter : (fun text : List Char => decide (text ≠ [])) = fun text =>
      decide (0 < byteLen text) :=
    funext fun text => decide_eq_decide.mpr byteLen_pos.symm
  rw [longestTail, tails_fileText, hfilter, maxByKey_filter, maxByKey_map]

theorem readCgroup_fileText (lines : List Membership) :
    readCgroup (.ok (fileText lines)) = lines.head?.map fun line => String.ofList line.shown := by
  rw [readCgroup, textLines_fileText]
  rcases lines with _ | ⟨line, lines⟩
  · rfl
  · rw [List.map_cons, List.findSome?_cons, lineTail_text]
    rfl

/-- A `PathBuf` as text. -/
def display (components : List String) : String :=
  String.ofList (pathText (components.map String.toList))

/-- What the parsers are to do: a unified line's path is the answer, and all give one path or
none. -/
def ReadAlike (procRoot : String) (pid : Nat) (lines : List Membership) : Prop :=
  (∀ line ∈ lines, line.Unified →
    Action.readProcCgroupPathAt procRoot pid (.ok (fileText lines)) =
      .ok (line.names.map String.ofList)) ∧
  ∃ path : Option String,
    (Action.readProcCgroupPathAt procRoot pid (.ok (fileText lines))).toOption.map display = path ∧
    (ProcessTable.readProcCgroupPathAt procRoot pid (.ok (fileText lines))).1 = path.getD "" ∧
    readCgroup (.ok (fileText lines)) = path

/-- The first line shows a path that is the last of the longest shown, and the path of the unified
line. -/
def OnePath (lines : List Membership) : Prop :=
  lines = [] ∨ ∃ names, (∀ name ∈ names, IsName name) ∧
    lines.head?.map (·.shown) = some (pathText names) ∧
    (∃ before line after, lines = before ++ line :: after ∧ line.shown = pathText names ∧
      (∀ other ∈ before, byteLen other.shown ≤ byteLen line.shown) ∧
      ∀ other ∈ after, byteLen other.shown < byteLen line.shown) ∧
    ∀ line ∈ lines, line.Unified → line.names = names

theorem readAlike_of_onePath (h : OnePath lines) : ReadAlike procRoot pid lines := by
  rcases h with rfl | ⟨names, hnames, hhead, ⟨before, line, after, hsplit, hline, hbefore, hafter⟩,
    hunified⟩
  · exact ⟨nofun, none, rfl, rfl, rfl⟩
  have hlongest : longestTail (fileText lines) = some (pathText names) := by
    rw [longestTail_fileText, maxByKey_eq_some.mpr ⟨before, after, hsplit, hbefore, hafter⟩,
      Option.map_some, hline, Option.filter_some,
      if_pos (decide_eq_true (byteLen_pos.mpr (pathText_ne_nil names)))]
  have haction : Action.readProcCgroupPathAt procRoot pid (.ok (fileText lines)) =
      .ok (names.map String.ofList) := by
    simp only [Action.readProcCgroupPathAt, hlongest]
    exact normalize_pathText _ hnames
  refine ⟨fun unified hmem hun => ?_, some (String.ofList (pathText names)), ?_, ?_, ?_⟩
  · rw [haction, hunified unified hmem hun]
  · rw [haction]
    simp [Except.toOption, display, Function.comp_def]
  · simp [ProcessTable.readProcCgroupPathAt, hlongest]
  · rw [readCgroup_fileText]
    rcases lines with _ | ⟨first, lines⟩
    · contradiction
    · exact congrArg _ (congrArg _ (Option.some.inj hhead))

theorem onePath_of_readAlike (h : ReadAlike procRoot pid lines) : OnePath lines := by
  obtain ⟨hunified, path, haction, hprocess, hcollector⟩ := h
  by_cases hnil : lines = []
  · exact .inl hnil
  obtain ⟨first, rest, rfl⟩ := List.exists_cons_of_ne_nil hnil
  rw [readCgroup_fileText] at hcollector
  subst hcollector
  rcases hread : Action.readProcCgroupPathAt procRoot pid (.ok (fileText (first :: rest))) with
    error | components
  · rw [hread] at haction
    contradiction
  rw [hread] at haction
  have hshown : pathText (components.map String.toList) = first.shown :=
    String.ofList_injective (Option.some.inj haction)
  simp only [ProcessTable.readProcCgroupPathAt, List.head?_cons, Option.map_some,
    Option.getD_some] at hprocess
  have hlongest : longestTail (fileText (first :: rest)) = some first.shown := by
    have hsame := String.ofList_injective hprocess
    rcases hfound : longestTail (fileText (first :: rest)) with _ | text
    · rw [hfound, Option.getD_none, ← hshown] at hsame
      exact absurd hsame.symm (pathText_ne_nil _)
    · rw [hfound, Option.getD_some] at hsame
      rw [hsame]
  refine .inr ⟨components.map String.toList, ?_, ?_, ?_, ?_⟩
  · intro name hname
    obtain ⟨part, hpart, rfl⟩ := List.mem_map.mp hname
    simp only [Action.readProcCgroupPathAt, hlongest] at hread
    exact isName_of_normalize hread hpart
  · rw [List.head?_cons, Option.map_some, hshown]
  · rw [longestTail_fileText] at hlongest
    obtain ⟨hmax, -⟩ := Option.filter_eq_some_iff.mp hlongest
    obtain ⟨line, hline, hsame⟩ := Option.map_eq_some_iff.mp hmax
    obtain ⟨before, after, hsplit, hbefore, hafter⟩ := maxByKey_eq_some.mp hline
    exact ⟨before, line, after, hsplit, hsame.trans hshown.symm, hbefore, hafter⟩
  · intro line hmem hun
    have hsame := Except.ok.inj (hread.symm.trans (hunified line hmem hun))
    rw [hsame, List.map_map]
    simp [Function.comp_def]

/-- The unified line's path is read, by all three, exactly if the lines show one path so. -/
theorem readAlike_iff (procRoot : String) (pid : Nat) (lines : List Membership) :
    ReadAlike procRoot pid lines ↔ OnePath lines :=
  ⟨onePath_of_readAlike, readAlike_of_onePath⟩

end Answers

/-- A hybrid host: the cgroup of a v1 hierarchy is deeper than the unified one. -/
def hybridLines : List Membership :=
  [⟨4, "memory".toList, ["user.slice".toList, "app".toList], by decide, by decide, by decide⟩,
    ⟨0, [], ["user.slice".toList], by decide, by decide, by decide⟩]

theorem hybridLines_not_unified : hybridLines[1].Unified ∧
    Action.readProcCgroupPathAt "/proc" 7 (.ok (fileText hybridLines)) = .ok ["user.slice", "app"] ∧
    ¬ReadAlike "/proc" 7 hybridLines := by
  have hread : Action.readProcCgroupPathAt "/proc" 7 (.ok (fileText hybridLines)) =
      .ok ["user.slice", "app"] := by
    decide +kernel
  refine ⟨⟨rfl, rfl⟩, hread, fun halike => ?_⟩
  have hunified := halike.1 hybridLines[1] (List.getElem_mem _) ⟨rfl, rfl⟩
  rw [hread] at hunified
  have hnames := Except.ok.inj hunified
  revert hnames
  decide

end Stutter.Cgroup
