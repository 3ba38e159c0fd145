import Mathlib.Data.List.TakeWhile
import StutterProof.AnanicyRules
import StutterProof.Tally
import StutterProof.TextLaws

/-! # Extracted objects

The text of an object, as far as the scanner tells characters apart: braces that match, outside of
strings.  `Reads` is a scan that stays inside of an object and only fills the buffer; the members of
an object are read that way (`Members.reads`), over any number of lines (`Reads.lines`).  So an
object is found with its own text, and the comments that wait are its own. -/
namespace Stutter.Ananicy

open ActiveConfig (trim)
open LineSplit (strLines newline_not_mem_strLines)
open TextLaws (dropWhile_lead)

variable {Value : Type} {fromStr : List Char → Option Value}

/-! ## Texts of objects -/

/-- The characters of a string, between its quotes.  A line does not end in a string. -/
inductive StringBody : List Char → Prop where
  | nil : StringBody []
  | char {c : Char} {rest : List Char} (hquote : c ≠ '"') (hescape : c ≠ '\\') (hline : c ≠ '\n')
      (hrest : StringBody rest) : StringBody (c :: rest)
  | escape {c : Char} {rest : List Char} (hline : c ≠ '\n') (hrest : StringBody rest) :
      StringBody ('\\' :: c :: rest)

/-- What is between the braces of an object: strings, objects in it, and any other characters. -/
inductive Members : List Char → Prop where
  | nil : Members []
  | char {c : Char} {rest : List Char} (hquote : c ≠ '"') (hopen : c ≠ '{') (hclose : c ≠ '}')
      (hrest : Members rest) : Members (c :: rest)
  | string {text rest : List Char} (htext : StringBody text) (hrest : Members rest) :
      Members ('"' :: (text ++ '"' :: rest))
  | object {inner rest : List Char} (hinner : Members inner) (hrest : Members rest) :
      Members ('{' :: (inner ++ '}' :: rest))

/-! ## Reading inside of an object -/

/-- The scan reads the text inside of an object; a line that ends only adds to the buffer. -/
inductive Reads (fromStr : List Char → Option Value) :
    Extraction Value → List Char → Extraction Value → Prop where
  | nil (state : Extraction Value) : Reads fromStr state [] state
  | char {state next after : Extraction Value} {c : Char} {rest : List Char} (hline : c ≠ '\n')
      (hdepth : 0 < state.depth)
      (hscan : scanInside fromStr { state with buffer := state.buffer ++ [c] } c = .ok next)
      (hnext : 0 < next.depth) (hrest : Reads fromStr next rest after) :
      Reads fromStr state (c :: rest) after
  | newline {state after : Extraction Value} {rest : List Char} (hdepth : 0 < state.depth)
      (hrest : Reads fromStr { state with buffer := state.buffer ++ ['\n'] } rest after) :
      Reads fromStr state ('\n' :: rest) after

theorem Reads.trans {state middle after : Extraction Value} {text more : List Char}
    (h : Reads fromStr state text middle) (hmore : Reads fromStr middle more after) :
    Reads fromStr state (text ++ more) after := by
  induction h with
  | nil => exact hmore
  | char hline hdepth hscan hnext _ ih => exact .char hline hdepth hscan hnext (ih hmore)
  | newline hdepth _ ih => exact .newline hdepth (ih hmore)

/-- In a string, up to its closing quote. -/
theorem StringBody.reads (fromStr : List Char → Option Value) {text : List Char}
    (h : StringBody text) (state : Extraction Value) (hdepth : 0 < state.depth)
    (hstring : state.inString = true) (hescaped : state.escaped = false) :
    Reads fromStr state text { state with buffer := state.buffer ++ text } := by
  induction h generalizing state with
  | nil => simpa using (.nil state : Reads fromStr state [] state)
  | @char c rest hquote hescape hline _ ih =>
    have hscan : scanInside fromStr { state with buffer := state.buffer ++ [c] } c =
        .ok { state with buffer := state.buffer ++ [c] } := by
      simp [scanInside, hstring, hescaped, hquote, hescape]
    have hrest := ih { state with buffer := state.buffer ++ [c] } hdepth hstring hescaped
    simpa using Reads.char hline hdepth hscan hdepth hrest
  | @escape c rest hline _ ih =>
    have hfirst : scanInside fromStr { state with buffer := state.buffer ++ ['\\'] } '\\' =
        .ok { state with buffer := state.buffer ++ ['\\'], escaped := true } := by
      simp [scanInside, hstring, hescaped]
    have hsecond : scanInside fromStr { state with
        buffer := state.buffer ++ ['\\'] ++ [c], escaped := true } c =
        .ok { state with buffer := state.buffer ++ ['\\'] ++ [c], escaped := false } := by
      simp [scanInside, hstring]
    have hrest := ih { state with buffer := state.buffer ++ ['\\'] ++ [c], escaped := false }
      hdepth hstring rfl
    have hread := Reads.char (by decide) hdepth hfirst hdepth
      (Reads.char hline hdepth hsecond hdepth hrest)
    simpa [hescaped] using hread

/-- The members of an object, at any depth. -/
theorem Members.reads (fromStr : List Char → Option Value) {text : List Char} (h : Members text)
    (state : Extraction Value) (hdepth : 0 < state.depth) (hstring : state.inString = false)
    (hescaped : state.escaped = false) :
    Reads fromStr state text { state with buffer := state.buffer ++ text } := by
  induction h generalizing state with
  | nil => simpa using (.nil state : Reads fromStr state [] state)
  | @char c rest hquote hopen hclose _ ih =>
    have hrest := ih { state with buffer := state.buffer ++ [c] } hdepth hstring hescaped
    by_cases hline : c = '\n'
    · subst hline
      simpa using Reads.newline hdepth hrest
    · have hscan : scanInside fromStr { state with buffer := state.buffer ++ [c] } c =
          .ok { state with buffer := state.buffer ++ [c] } := by
        simp [scanInside, hstring, hquote, hopen, hclose]
      simpa using Reads.char hline hdepth hscan hdepth hrest
  | @string text rest htext _ ih =>
    have hfirst : scanInside fromStr { state with buffer := state.buffer ++ ['"'] } '"' =
        .ok { state with buffer := state.buffer ++ ['"'], inString := true } := by
      simp [scanInside, hstring]
    have hbody := htext.reads fromStr { state with
        buffer := state.buffer ++ ['"'], inString := true }
      hdepth rfl hescaped
    have hlast : scanInside fromStr
        { state with buffer := state.buffer ++ ['"'] ++ text ++ ['"'], inString := true } '"' =
          .ok { state with
            buffer := state.buffer ++ ['"'] ++ text ++ ['"'], inString := false } := by
      simp [scanInside, hescaped]
    have hrest :=
      ih { state with buffer := state.buffer ++ ['"'] ++ text ++ ['"'], inString := false }
      hdepth rfl hescaped
    have hread := Reads.char (by decide) hdepth hfirst hdepth
      (hbody.trans (Reads.char (by decide) hdepth hlast hdepth hrest))
    simpa [hstring] using hread
  | @object inner rest _ _ ihInner ih =>
    have hopen : scanInside fromStr { state with buffer := state.buffer ++ ['{'] } '{' =
        .ok { state with buffer := state.buffer ++ ['{'], depth := state.depth + 1 } := by
      simp [scanInside, hstring]
    have hinner := ihInner { state with buffer := state.buffer ++ ['{'], depth := state.depth + 1 }
      (Nat.succ_pos _) hstring hescaped
    have hclose : scanInside fromStr
        { state with buffer := state.buffer ++ ['{'] ++ inner ++ ['}'], depth := state.depth + 1 }
          '}' =
          .ok { state with buffer := state.buffer ++ ['{'] ++ inner ++ ['}'] } := by
      have hopened : state.depth ≠ 0 := by omega
      simp [scanInside, hstring, hopened]
    have hrest :=
      ih { state with buffer := state.buffer ++ ['{'] ++ inner ++ ['}'] } hdepth hstring hescaped
    have hread := Reads.char (by decide) hdepth hopen (Nat.succ_pos _)
      (hinner.trans (Reads.char (by decide) (Nat.succ_pos _) hclose hdepth hrest))
    simpa using hread

variable {state after : Extraction Value}

/-! ## Lines -/

/-- What is read up to the end of a line is scanned so, whatever was seen on the line. -/
theorem Reads.scans {text : List Char} (h : Reads fromStr state text after) (hline : '\n' ∉ text)
    (sawObjectStart : Bool) :
    text.foldlM (scanChar fromStr) (state, sawObjectStart) = .ok (after, sawObjectStart) := by
  induction h with
  | nil => rfl
  | @char state next after c rest hnot hdepth hscan hnext _ ih =>
    have hstep : scanChar fromStr (state, sawObjectStart) c = .ok (next, sawObjectStart) := by
      have hinside : ¬state.depth = 0 := by omega
      simp only [scanChar, if_neg hinside, hscan]
      rfl
    rw [List.foldlM_cons, hstep]
    exact ih (fun hmem => hline (List.mem_cons_of_mem c hmem))
  | newline => exact absurd List.mem_cons_self hline

/-- A text of several lines is read line by line. -/
theorem Reads.split {first rest : List Char}
    (h : Reads fromStr state (first ++ '\n' :: rest) after) (hline : '\n' ∉ first) :
    ∃ middle, Reads fromStr state first middle ∧ 0 < middle.depth ∧
      Reads fromStr { middle with buffer := middle.buffer ++ ['\n'] } rest after := by
  induction first generalizing state with
  | nil =>
    rcases h with _ | ⟨hnot, _⟩ | ⟨hdepth, hrest⟩
    · exact absurd rfl hnot
    · exact ⟨state, .nil state, hdepth, hrest⟩
  | cons c first ih =>
    obtain ⟨hc, hfirst⟩ := not_or.mp (mt List.mem_cons.mpr hline)
    rcases h with _ | ⟨hnot, hdepth, hscan, hnext, hrest⟩ | _
    · obtain ⟨middle, hmiddle, hinside, hmore⟩ := ih hrest hfirst
      exact ⟨middle, .char hnot hdepth hscan hnext hmiddle, hinside, hmore⟩
    · exact absurd rfl hc

/-- The lines of a text, put together again. -/
def unlines : List Char → List (List Char) → List Char
  | first, [] => first
  | first, next :: more => first ++ '\n' :: unlines next more

/-- The lines of a text that a brace and what follows it ends. -/
def closedLines (tail : List Char) : List Char → List (List Char) → List (List Char)
  | last, [] => [last ++ '}' :: tail]
  | first, next :: more => first :: closedLines tail next more

/-- Outside of an object only an opening brace does anything. -/
theorem scan_tail {state : Extraction Value} (hdepth : state.depth = 0) {tail : List Char}
    (htail : '{' ∉ tail) (sawObjectStart : Bool) :
    tail.foldlM (scanChar fromStr) (state, sawObjectStart) = .ok (state, sawObjectStart) := by
  induction tail with
  | nil => rfl
  | cons c tail ih =>
    obtain ⟨hc, hrest⟩ := not_or.mp (mt List.mem_cons.mpr htail)
    have hstep : scanChar fromStr (state, sawObjectStart) c = .ok (state, sawObjectStart) := by
      simp only [scanChar, if_pos hdepth, if_neg (Ne.symm hc)]
    rw [List.foldlM_cons, hstep]
    exact ih hrest

theorem closeObject_depth {state next : Extraction Value}
    (h : closeObject fromStr state = .ok next) :
    next.depth = 0 ∧ next.pendingComments = state.pendingComments := by
  unfold closeObject at h
  rcases hvalue : fromStr state.buffer with _ | value
  · rw [hvalue] at h
    contradiction
  · rw [hvalue] at h
    cases h
    exact ⟨rfl, rfl⟩

/-- The line on which an object ends. -/
theorem scan_last {state after : Extraction Value} {last tail : List Char}
    (hread : Reads fromStr state last after) (hline : '\n' ∉ last) (hinside : after.depth = 1)
    (hstring : after.inString = false) (htail : '{' ∉ tail) (sawObjectStart : Bool) :
    (last ++ '}' :: tail).foldlM (scanChar fromStr) (state, sawObjectStart) =
      (closeObject fromStr { after with buffer := after.buffer ++ ['}'] }).map
        (·, sawObjectStart) := by
  have hbrace : scanChar fromStr (after, sawObjectStart) '}' =
      (closeObject fromStr { after with buffer := after.buffer ++ ['}'] }).map
        (·, sawObjectStart) := by
    simp [scanChar, scanInside, hinside, hstring]
  rw [List.foldlM_append, hread.scans hline]
  show ('}' :: tail).foldlM (scanChar fromStr) (after, sawObjectStart) = _
  rw [List.foldlM_cons, hbrace]
  rcases hclose : closeObject fromStr { after with buffer := after.buffer ++ ['}'] } with _ | next
  · rfl
  · exact scan_tail (closeObject_depth hclose).1 htail sawObjectStart

theorem dropWhile_ne_nil {c : Char} (hc : isTrimmed c = false) (text more : List Char) :
    (text ++ c :: more).dropWhile isTrimmed ≠ [] := by
  intro h
  have hall := List.dropWhile_eq_nil_iff.mp h c (by simp)
  rw [hc] at hall
  contradiction

/-- The lines of an object after the first one. -/
theorem scan_closedLines {tail : List Char} (htail : '{' ∉ tail) {after : Extraction Value}
    (hinside : after.depth = 1) (hstring : after.inString = false)
    (hpending : after.pendingComments = []) {first : List Char} {more : List (List Char)}
    (hfirst : '\n' ∉ first) (hmore : ∀ line ∈ more, '\n' ∉ line) (state : Extraction Value)
    (hdepth : 0 < state.depth) (hread : Reads fromStr state (unlines first more) after) :
    (closedLines tail first more).foldlM (scanLine fromStr) state =
      closeObject fromStr { after with buffer := after.buffer ++ ['}'] } := by
  induction more generalizing first state with
  | nil =>
    have hblank := dropWhile_ne_nil (show isTrimmed '}' = false by decide) first tail
    rw [closedLines, List.foldlM_cons, scanLine, if_pos hdepth, scanContent,
      scan_last (show Reads fromStr state first after from hread) hfirst hinside hstring htail]
    rcases hclose : closeObject fromStr { after with buffer := after.buffer ++ ['}'] } with _ | next
    · rfl
    · obtain ⟨hclosed, hsame⟩ := closeObject_depth hclose
      have hnone : next.pendingComments = [] := hsame.trans hpending
      obtain ⟨objects, buffer, depth, inString, escaped, pending, objectComments⟩ := next
      cases hclosed
      cases hnone
      simp [Except.map, bind, Except.bind, pure, Except.pure, hblank]
  | cons next more ih =>
    obtain ⟨middle, hmiddle, hopen, hrest⟩ := hread.split hfirst
    have hline : scanLine fromStr state first = .ok { middle with
        buffer := middle.buffer ++ ['\n'] } := by
      rw [scanLine, if_pos hdepth, scanContent, hmiddle.scans hfirst]
      exact if_pos hopen
    rw [closedLines, List.foldlM_cons, hline]
    exact ih (hmore next List.mem_cons_self)
      (fun line hmem => hmore line (List.mem_cons_of_mem next hmem))
      _ hopen hrest

/-! ## Files -/

/-- An object on lines of its own: white space, the members over one or more lines, and after the
brace anything without an opening one. -/
structure RuleObject where
  lead : List Char
  first : List Char
  more : List (List Char)
  tail : List Char
  blankLead : ∀ c ∈ lead, isTrimmed c = true
  members : Members (unlines first more)
  noBrace : '{' ∉ tail

namespace RuleObject

def text (object : RuleObject) : List Char := '{' :: unlines object.first object.more ++ ['}']

def lines (object : RuleObject) : List (List Char) :=
  closedLines object.tail (object.lead ++ '{' :: object.first) object.more

end RuleObject

/-- A line of white space. -/
structure BlankLine where
  text : List Char
  blank : ∀ c ∈ text, isTrimmed c = true

/-- A comment on a line of its own. -/
structure CommentLine where
  lead : List Char
  slashes : Bool
  text : List Char
  blankLead : ∀ c ∈ lead, isTrimmed c = true

def CommentLine.line (comment : CommentLine) : List Char :=
  comment.lead ++ (if comment.slashes then ['/', '/'] else ['#']) ++ comment.text

/-- The items of a rule file. -/
inductive Item where
  | blank (line : BlankLine)
  | comment (line : CommentLine)
  | object (object : RuleObject)

namespace Item

def lines : Item → List (List Char)
  | blank line => [line.text]
  | comment line => [line.line]
  | object found => found.lines

def isComment : Item → Bool
  | comment _ => true
  | blank _ | object _ => false

/-- The text of a comment, if it has one. -/
def commentText : Item → Option (List Char)
  | comment line => if (trim line.text).isEmpty then none else some (trim line.text)
  | blank _ | object _ => none

end Item

/-- The comments on the lines directly before a place. -/
def commentsBefore (before : List Item) : List (List Char) :=
  (before.reverse.takeWhile Item.isComment).reverse.filterMap Item.commentText

/-- The objects of a file, each with the comments before it. -/
def objectsFrom (before : List Item) : List Item → List (RuleObject × List (List Char))
  | [] => []
  | .object found :: rest =>
    (found, commentsBefore before) :: objectsFrom (before ++ [.object found]) rest
  | item :: rest => objectsFrom (before ++ [item]) rest

def parseObject (fromStr : List Char → Option Value) (found : RuleObject × List (List Char)) :
    Except ExtractError (ParsedRuleObject Value) :=
  match fromStr found.1.text with
  | some value => .ok ⟨value, found.2⟩
  | none => .error (.json found.1.text)

/-- The lines that a brace and what follows it ends have no more newlines than these. -/
theorem not_mem_of_closedLines {tail first : List Char} {more : List (List Char)}
    (h : ∀ line ∈ closedLines tail first more, '\n' ∉ line) :
    ∀ line ∈ first :: more, '\n' ∉ line := by
  induction more generalizing first with
  | nil =>
    intro line hmem hnewline
    obtain rfl := List.mem_singleton.mp hmem
    exact h _ List.mem_cons_self (List.mem_append_left _ hnewline)
  | cons next more ih =>
    intro line hmem
    rcases List.mem_cons.mp hmem with rfl | hmem
    · exact h line List.mem_cons_self
    · exact ih (fun other hother => h other (List.mem_cons_of_mem _ hother)) line hmem

/-- Outside of objects and strings. -/
structure Outside (state : Extraction Value) : Prop where
  depth : state.depth = 0
  inString : state.inString = false
  escaped : state.escaped = false

/-- The lines of an object that starts with no member read yet. -/
theorem scan_object {state : Extraction Value} (houtside : Outside state) (object : RuleObject)
    (hline : ∀ line ∈ object.lines, '\n' ∉ line) :
    object.lines.foldlM (scanLine fromStr) state =
      (parseObject fromStr (object, state.pendingComments)).map fun found =>
        { state with
          objects := state.objects ++ [found]
          buffer := []
          pendingComments := []
          objectComments := [] } := by
  obtain ⟨lead, first, more, tail, hlead, hmembers, htail⟩ := object
  obtain ⟨objects, buffer, depth, inString, escaped, pending, objectComments⟩ := state
  obtain ⟨hdepth, hstring, hescaped⟩ := houtside
  dsimp only at hdepth hstring hescaped
  subst hdepth hstring hescaped
  -- the state behind the opening brace
  let opened : Extraction Value := ⟨objects, ['{'], 1, false, false, [], pending⟩
  have hread := hmembers.reads fromStr opened Nat.one_pos rfl rfl
  have hopen : ∀ rest, (lead ++ '{' :: rest).foldlM (scanChar fromStr)
      ((⟨objects, buffer, 0, false, false, pending, objectComments⟩ : Extraction Value), false) =
        rest.foldlM (scanChar fromStr) (opened, true) := by
    intro rest
    have hlead : '{' ∉ lead := fun hmem => absurd (hlead '{' hmem) (by decide)
    rw [List.foldlM_append, scan_tail rfl hlead]
    rfl
  have hstart : ∀ rest, scanLine fromStr ⟨objects, buffer, 0, false, false, pending, objectComments⟩
      (lead ++ '{' :: rest) =
        scanContent fromStr ⟨objects, buffer, 0, false, false, pending, objectComments⟩
          (lead ++ '{' :: rest) := by
    intro rest
    simp only [scanLine, dropWhile_lead hlead (show isTrimmed '{' = false by decide)]
    rfl
  have hclose : closeObject fromStr
      { opened with buffer := (opened.buffer ++ unlines first more) ++ ['}'] } =
        (parseObject fromStr (⟨lead, first, more, tail, hlead, hmembers, htail⟩, pending)).map
          fun found =>
          ⟨objects ++ [found], [], 0, false, false, [], []⟩ := by
    unfold closeObject parseObject
    dsimp only [opened, RuleObject.text, List.cons_append, List.nil_append]
    rcases fromStr ('{' :: (unlines first more ++ ['}'])) with _ | value <;> rfl
  unfold RuleObject.lines at hline ⊢
  dsimp only at hline ⊢
  rcases more with _ | ⟨next, more⟩
  · have hfirst : '\n' ∉ first := by
      intro hmem
      exact hline _ List.mem_cons_self (by simp [hmem])
    rw [closedLines, List.foldlM_cons, List.append_assoc, List.cons_append, hstart, scanContent,
      hopen, scan_last (show Reads fromStr opened first _ from hread) hfirst rfl rfl htail]
    rcases hfound : parseObject fromStr
      (⟨lead, first, [], tail, hlead, hmembers, htail⟩, pending) with _ | found
    · rw [hfound] at hclose
      rw [show closeObject fromStr _ = _ from hclose]
      rfl
    · rw [hfound] at hclose
      rw [show closeObject fromStr _ = _ from hclose]
      rfl
  · have hfirst : '\n' ∉ first := by
      intro hmem
      exact hline _ List.mem_cons_self (by simp [hmem])
    have hrest := not_mem_of_closedLines fun line hmem => hline line (List.mem_cons_of_mem _ hmem)
    obtain ⟨middle, hmiddle, hinside, hmore⟩ :=
      Reads.split (show Reads fromStr opened (first ++ '\n' :: unlines next more) _ from hread)
        hfirst
    have hbegun : scanLine fromStr ⟨objects, buffer, 0, false, false, pending, objectComments⟩
        (lead ++ '{' :: first) = .ok { middle with buffer := middle.buffer ++ ['\n'] } := by
      rw [hstart, scanContent, hopen, hmiddle.scans hfirst]
      exact if_pos hinside
    rw [closedLines, List.foldlM_cons, hbegun]
    have hrun := fun hone hplain hnone => scan_closedLines htail hone hplain hnone
      (hrest next List.mem_cons_self) (fun line hmem => hrest line (List.mem_cons_of_mem next hmem))
      { middle with buffer := middle.buffer ++ ['\n'] } hinside hmore
    exact (hrun rfl rfl rfl).trans hclose

theorem commentsBefore_comment (before : List Item) (line : CommentLine) :
    commentsBefore (before ++ [.comment line]) =
      commentsBefore before ++ (if (trim line.text).isEmpty then [] else [trim line.text]) := by
  have hrun : (before ++ [Item.comment line]).reverse.takeWhile Item.isComment =
      Item.comment line :: before.reverse.takeWhile Item.isComment := by
    rw [List.reverse_append]
    exact List.takeWhile_cons_of_pos rfl
  rw [commentsBefore, hrun, List.reverse_cons, List.filterMap_append]
  by_cases hempty : (trim line.text).isEmpty = true
  · simp [commentsBefore, Item.commentText, hempty]
  · simp [commentsBefore, Item.commentText, hempty]

theorem commentsBefore_other (before : List Item) {item : Item} (h : item.isComment = false) :
    commentsBefore (before ++ [item]) = [] := by
  simp [commentsBefore, h]

theorem scan_blank {state : Extraction Value} (houtside : Outside state) (line : BlankLine) :
    scanLine fromStr state line.text = .ok { state with pendingComments := [] } := by
  have hinside : ¬0 < state.depth := by
    rw [houtside.depth]
    exact lt_irrefl 0
  have hblank : line.text.dropWhile isTrimmed = [] := List.dropWhile_eq_nil_iff.mpr line.blank
  rw [scanLine, if_neg hinside, hblank]
  rfl

theorem scan_comment {state : Extraction Value} (houtside : Outside state) (comment : CommentLine) :
    scanLine fromStr state comment.line = .ok { state with
      pendingComments := state.pendingComments ++
        (if (trim comment.text).isEmpty then [] else [trim comment.text]) } := by
  have hinside : ¬0 < state.depth := by
    rw [houtside.depth]
    exact lt_irrefl 0
  obtain ⟨lead, slashes, text, hlead⟩ := comment
  have hmarked : ∃ c rest, (if slashes then ['/', '/'] else ['#']) ++ text = c :: rest ∧
      isTrimmed c = false ∧ commentFromTrimmedLine (c :: rest) = some (trim text) := by
    rcases slashes with _ | _
    · exact ⟨'#', text, rfl, by decide, rfl⟩
    · exact ⟨'/', '/' :: text, rfl, by decide, rfl⟩
  obtain ⟨c, rest, hmark, hc, hcomment⟩ := hmarked
  have htrimmed : (CommentLine.line ⟨lead, slashes, text, hlead⟩).dropWhile isTrimmed =
      c :: rest := by
    rw [CommentLine.line, List.append_assoc, hmark, dropWhile_lead hlead hc]
  simp only [scanLine, if_neg hinside, htrimmed, hcomment, List.isEmpty_cons, Bool.false_eq_true,
    if_false]
  by_cases hempty : (trim text).isEmpty = true
  · simp [hempty]
  · simp [hempty]

theorem map_concat {α ε : Type} (found : List α) (next : α) (rest : Except ε (List α)) :
    rest.map (found ++ [next] ++ ·) =
      (rest >>= fun others => pure (next :: others)).map (found ++ ·) := by
  rcases rest with error | others
  · rfl
  · exact congrArg Except.ok (List.append_assoc ..)

/-- The rest of a file, from a place outside of objects. -/
theorem scan_items (items : List Item) (before : List Item)
    (hline : ∀ line ∈ items.flatMap Item.lines, '\n' ∉ line) (state : Extraction Value)
    (houtside : Outside state) (hpending : state.pendingComments = commentsBefore before) :
    ((items.flatMap Item.lines).foldlM (scanLine fromStr) state >>= fun state =>
        if state.depth = 0 then .ok state.objects else .error .unterminated) =
      ((objectsFrom before items).mapM (parseObject fromStr)).map (state.objects ++ ·) := by
  induction items generalizing before state with
  | nil =>
    show (if state.depth = 0 then _ else _) = _
    rw [if_pos houtside.depth, objectsFrom, List.mapM_nil]
    exact congrArg Except.ok (List.append_nil _).symm
  | cons item items ih =>
    rw [List.flatMap_cons] at hline ⊢
    have hrest : ∀ line ∈ items.flatMap Item.lines, '\n' ∉ line :=
      fun line hmem => hline line (List.mem_append_right _ hmem)
    cases item with
    | blank line =>
      have hnext := ih (before ++ [.blank line]) hrest { state with pendingComments := [] }
        ⟨houtside.depth, houtside.inString, houtside.escaped⟩ (commentsBefore_other before rfl).symm
      rw [Item.lines, List.singleton_append, List.foldlM_cons, scan_blank houtside]
      exact hnext
    | comment line =>
      have hnext := ih (before ++ [.comment line]) hrest
        { state with pendingComments := state.pendingComments ++ _ }
        ⟨houtside.depth, houtside.inString, houtside.escaped⟩
        (by rw [hpending]; exact (commentsBefore_comment before line).symm)
      rw [Item.lines, List.singleton_append, List.foldlM_cons, scan_comment houtside]
      exact hnext
    | object found =>
      rw [Item.lines, List.foldlM_append,
        scan_object houtside found fun line hmem => hline line (List.mem_append_left _ hmem),
        objectsFrom, List.mapM_cons, ← hpending]
      rcases parseObject fromStr (found, state.pendingComments) with error | parsed
      · rfl
      · have hnext := ih (before ++ [.object found]) hrest
          { state with
            objects := state.objects ++ [parsed], buffer := [], pendingComments := [],
            objectComments := [] }
          ⟨houtside.depth, houtside.inString, houtside.escaped⟩
            (commentsBefore_other before rfl).symm
        exact hnext.trans (map_concat state.objects parsed _)

/-! ## Extraction and import -/

/-- What is extracted of a file: its objects, or the error of the first that does not parse. -/
theorem extractJsonObjects_items (fromStr : List Char → Option Value) (content : List Char)
    (items : List Item) (h : strLines content = items.flatMap Item.lines) :
    extractJsonObjects fromStr content = (objectsFrom [] items).mapM (parseObject fromStr) := by
  have hline : ∀ line ∈ items.flatMap Item.lines, '\n' ∉ line :=
    h ▸ newline_not_mem_strLines content
  have hscan : _ = ((objectsFrom [] items).mapM (parseObject fromStr)).map _ :=
    scan_items items [] hline .start ⟨rfl, rfl, rfl⟩ rfl
  rw [extractJsonObjects, h]
  refine hscan.trans ?_
  rcases (objectsFrom [] items).mapM (parseObject fromStr) with _ | _ <;> rfl

/-- Each object is counted once more, and no more than once. -/
def Import.Balanced (state : Import) : Prop :=
  state.report.parsedObjects = state.rules.length + state.report.duplicateRules +
    (state.report.skippedNoName + state.report.skippedBadName + state.report.skippedUnknownClass)

theorem Import.Balanced.importObject {state : Import} (h : state.Balanced)
    (decision : RuleImportDecision) :
    (importObject state decision).Balanced := by
  unfold Import.Balanced at h ⊢
  cases decision with
  | importRule rule =>
    by_cases hseen : (rule.normalizedName, rule.sourcePath) ∈ state.seen
    · simp only [Ananicy.importObject, importRule, if_pos hseen]
      omega
    · simp only [Ananicy.importObject, importRule, if_neg hseen, List.length_append,
        List.length_singleton]
      omega
  | skipNoName =>
    simp only [Ananicy.importObject]
    omega
  | skipBadName =>
    simp only [Ananicy.importObject]
    omega
  | skipUnknownClass =>
    simp only [Ananicy.importObject]
    omega

variable {decide : ParsedRuleObject Value → String → RuleImportDecision}

theorem Import.Balanced.importFile {state next : Import} (h : state.Balanced) {path : String}
    {content : Option (List Char)}
    (hfile : importFile fromStr decide state path content = .ok next) : next.Balanced := by
  rcases content with _ | content
  · contradiction
  unfold Ananicy.importFile at hfile
  dsimp only at hfile
  rcases hobjects : extractJsonObjects fromStr content with _ | objects
  · rw [hobjects] at hfile
    contradiction
  rw [hobjects] at hfile
  obtain rfl := Except.ok.inj hfile
  clear hobjects hfile
  induction objects generalizing state with
  | nil => exact h
  | cons object objects ih => exact ih (h.importObject (decide object path))

theorem Import.Balanced.importFiles {files : List (String × Option (List Char))}
    {state next : Import} (h : state.Balanced)
    (hfiles : files.foldlM (fun state file => Ananicy.importFile fromStr decide state file.1 file.2)
      state =
      .ok next) : next.Balanced := by
  induction files generalizing state with
  | nil =>
    obtain rfl := Except.ok.inj hfiles
    exact h
  | cons file files ih =>
    rw [List.foldlM_cons] at hfiles
    obtain ⟨middle, hfile, hrest⟩ := Tally.ok_of_bind hfiles
    exact ih (h.importFile hfile) hrest

theorem importAnanicyRules_balanced {isDir : Bool} {files : List (String × Option (List Char))}
    {rules : List CommunityRule} {report : ImportReport}
    (h : importAnanicyRules fromStr decide isDir files = .ok (rules, report)) :
    report.importedRules = rules.length ∧
      report.parsedObjects = report.importedRules + report.duplicateRules +
        (report.skippedNoName + report.skippedBadName + report.skippedUnknownClass) := by
  rcases isDir with _ | _
  · contradiction
  obtain ⟨state, hfiles, hreport⟩ := Tally.ok_of_bind (show (files.foldlM _ _ >>= _) = _ from h)
  have hbalanced : (Import.start files.length).Balanced := rfl
  have hstate := hbalanced.importFiles hfiles
  obtain ⟨rfl, rfl⟩ := Prod.mk.inj (Except.ok.inj hreport)
  exact ⟨rfl, hstate⟩

/-- Where every object parses, all are found. -/
theorem mapM_parseObject {found : List (RuleObject × List (List Char))} {value : RuleObject → Value}
    (h : ∀ pair ∈ found, fromStr pair.1.text = some (value pair.1)) :
    found.mapM (parseObject fromStr) = .ok (found.map fun pair => ⟨value pair.1, pair.2⟩) := by
  induction found with
  | nil => rfl
  | cons pair found ih =>
    have hpair : parseObject fromStr pair = .ok ⟨value pair.1, pair.2⟩ := by
      rw [parseObject, h pair List.mem_cons_self]
    rw [List.mapM_cons, hpair, ih fun other hmem => h other (List.mem_cons_of_mem pair hmem)]
    rfl

/-- **Extraction and import.**  A file of objects on lines of their own, blank lines and comments
gives these objects in their order, each with the comments directly before it (or the error of the
first that does not parse); and an import that succeeds counts each object once, as imported, as a
duplicate or as skipped. -/
theorem ananicyRules_extracted {Value : Type} (fromStr : List Char → Option Value)
    (decide : ParsedRuleObject Value → String → RuleImportDecision) :
    (∀ (content : List Char) (items : List Item), strLines content = items.flatMap Item.lines →
      extractJsonObjects fromStr content = (objectsFrom [] items).mapM (parseObject fromStr) ∧
        ∀ value : RuleObject → Value,
          (∀ found ∈ objectsFrom [] items, fromStr found.1.text = some (value found.1)) →
          extractJsonObjects fromStr content =
            .ok ((objectsFrom [] items).map fun found => ⟨value found.1, found.2⟩)) ∧
    ∀ (isDir : Bool) (files : List (String × Option (List Char))) (rules : List CommunityRule)
      (report : ImportReport), importAnanicyRules fromStr decide isDir files = .ok (rules, report) →
        report.importedRules = rules.length ∧
          report.parsedObjects = report.importedRules + report.duplicateRules +
            (report.skippedNoName + report.skippedBadName + report.skippedUnknownClass) := by
  refine ⟨?_, fun isDir files rules report h => importAnanicyRules_balanced h⟩
  intro content items h
  have hfound := extractJsonObjects_items fromStr content items h
  refine ⟨hfound, ?_⟩
  intro value hvalue
  rw [hfound, mapM_parseObject hvalue]

/-! ## A rule file -/

/-- A character that stands in a string as it is. -/
def isPlain (c : Char) : Bool := c ≠ '"' && c ≠ '\\' && c ≠ '\n'

theorem stringBody_of_plain {text : List Char} (h : text.all isPlain = true) :
    StringBody text := by
  induction text with
  | nil => exact .nil
  | cons c text ih =>
    simp only [List.all_cons, isPlain, Bool.and_eq_true, decide_eq_true_eq] at h
    obtain ⟨⟨⟨hquote, hescape⟩, hline⟩, hrest⟩ := h
    exact .char hquote hescape hline (ih hrest)

/-- A member whose value is a string, and what follows it. -/
theorem members_pair (key value : List Char) {rest : List Char}
    (hkey : key.all isPlain = true) (hvalue : value.all isPlain = true) (hrest : Members rest) :
    Members ('"' :: (key ++ '"' :: ':' :: ' ' :: '"' :: (value ++ '"' :: rest))) := by
  have hstring := Members.string (stringBody_of_plain hvalue) hrest
  have hblank : Members (' ' :: '"' :: (value ++ '"' :: rest)) :=
    .char (by decide) (by decide) (by decide) hstring
  have hcolon : Members (':' :: ' ' :: '"' :: (value ++ '"' :: rest)) :=
    .char (by decide) (by decide) (by decide) hblank
  exact .string (stringBody_of_plain hkey) hcolon

theorem gameRest : Members (",\n \"title\": \"A \x7b game\"".toList) :=
  .char (by decide) (by decide) (by decide) (.char (by decide) (by decide) (by decide)
    (.char (by decide) (by decide) (by decide)
      (members_pair "title".toList "A \x7b game".toList rfl rfl .nil)))

/-- An object on two lines with a brace in a string and a comment behind it. -/
def gameObject : RuleObject where
  lead := []
  first := "\"name\": \"Game.exe\",".toList
  more := [" \"title\": \"A \x7b game\"".toList]
  tail := " # \x7d".toList
  blankLead := nofun
  members := members_pair "name".toList "Game.exe".toList rfl rfl gameRest
  noBrace := by decide

def namelessObject : RuleObject where
  lead := []
  first := "\"type\": \"Game\"".toList
  more := []
  tail := []
  blankLead := nofun
  members := members_pair "type".toList "Game".toList rfl rfl .nil
  noBrace := by decide

def gameComment : CommentLine := ⟨[], true, " A game".toList, nofun⟩

def gameItems : List Item :=
  [.comment gameComment, .object gameObject, .object gameObject, .object namelessObject]

/-- The file of these items. -/
def gameFile : List Char :=
  ("// A game\n" ++
    "\x7b\"name\": \"Game.exe\",\r\n \"title\": \"A \x7b game\"\x7d # \x7d\n" ++
    "\x7b\"name\": \"Game.exe\",\n \"title\": \"A \x7b game\"\x7d # \x7d\n" ++
    "\x7b\"type\": \"Game\"\x7d\n").toList

/-- The members of the objects in it. -/
def gameFromStr (text : List Char) : Option (List (String × String)) :=
  if text = gameObject.text then some [("name", "Game.exe"), ("title", "A \x7b game")]
  else if text = namelessObject.text then some [("type", "Game")]
  else none

def gameRule (object : ParsedRuleObject (List (String × String))) (path : String) :
    RuleImportDecision :=
  match object.value.lookup "name" with
  | some name => .importRule ⟨name.toLower, "Game", path, [], false⟩
  | none => .skipNoName

/-- What is found: a rule, the same rule again, and an object without a name. -/
def gameObjects : List (ParsedRuleObject (List (String × String))) :=
  [⟨[("name", "Game.exe"), ("title", "A \x7b game")], ["A game".toList]⟩,
    ⟨[("name", "Game.exe"), ("title", "A \x7b game")], []⟩, ⟨[("type", "Game")], []⟩]

theorem ananicyRules_extracted_game :
    extractJsonObjects gameFromStr gameFile = .ok gameObjects ∧
      ∃ rules report, importAnanicyRules gameFromStr gameRule true
        [("games.rules", some gameFile)] =
        .ok (rules, report) ∧ report.importedRules = 1 ∧ report.duplicateRules = 1 ∧
          report.parsedObjects = 3 := by
  obtain ⟨hextract, himport⟩ := ananicyRules_extracted gameFromStr gameRule
  have hlines : strLines gameFile = gameItems.flatMap Item.lines := by decide +kernel
  have hfound :=
    (hextract gameFile gameItems hlines).2 (fun object => (gameFromStr object.text).getD [])
    (by decide +kernel)
  have hobjects : extractJsonObjects gameFromStr gameFile = .ok gameObjects :=
    hfound.trans (by decide +kernel)
  refine ⟨hobjects, ?_⟩
  obtain ⟨rules, report, hrules, hcounts⟩ : ∃ rules report,
      importAnanicyRules gameFromStr gameRule true [("games.rules", some gameFile)] =
        .ok (rules, report) ∧
        rules.length = 1 ∧ report.duplicateRules = 1 ∧ report.skippedNoName = 1 ∧
          report.skippedBadName = 0 ∧
          report.skippedUnknownClass = 0 := by
    simp only [importAnanicyRules, importFile, List.foldlM_cons, hobjects]
    exact ⟨_, _, rfl, by decide +kernel⟩
  obtain ⟨himported, hparsed⟩ := himport _ _ rules report hrules
  exact ⟨rules, report, hrules, by omega, hcounts.2.1, by omega⟩

/-- An opening brace in a comment behind an object starts another object; and a comment line without
a text is not kept. -/
theorem extractJsonObjects_trailing :
    extractJsonObjects some "\x7b\x7d # \x7b\n".toList = .error .unterminated ∧
      extractJsonObjects some "#\n\x7b\x7d\n".toList = .ok [⟨"\x7b\x7d".toList, []⟩] := by
  decide

end Stutter.Ananicy
