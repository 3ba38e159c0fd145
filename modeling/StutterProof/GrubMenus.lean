import Mathlib.Data.List.Infix
import Mathlib.Data.Set.Basic
import Mathlib.Logic.Function.Iterate
import StutterProof.GrubConfig
import StutterProof.TextLaws

/-! # Boot menus

A menu as it is generated: entries and submenus, each a header with one opening brace, and other
lines with as many closing as opening braces.  A scan that starts outside of all entries comes back
to the same depth and the same submenus behind the menu (`scan_menu`), provided that the titles have
as many braces of either kind, and that no title has the marker of an id in it.

**`parseGrubCfg_titles`**: on these titles, and no others, the parser is right whatever the menu. -/
namespace Stutter.Grub

open LineSplit (strLines newline_not_mem_strLines strLines_flatMap)
open StatLine (rsplitOnce splitWhitespace splitWhitespace_word splitWhitespace_last)
open TextLaws (dropWhile_lead)

/-! ## Menus -/

/-- As many closing as opening braces. -/
def EvenBraces (text : List Char) : Prop := text.count '{' = text.count '}'

instance (text : List Char) : Decidable (EvenBraces text) := inferInstanceAs (Decidable (_ = _))

/-- An apostrophe ends the quotes, is escaped, and opens them again. -/
def quote (title : List Char) : List Char :=
  title.flatMap fun c => if c = '\'' then ['\'', '\\', '\'', '\''] else [c]

/-- The header of a block. -/
structure Header where
  lead : List Char
  title : List Char
  options : List Char
  id : List Char
  blankLead : ∀ c ∈ lead, isTrimmed c = true
  plainOptions : '$' ∉ options
  evenOptions : EvenBraces options
  plainId : '\'' ∉ id
  evenId : EvenBraces id

namespace Header
variable (header : Header)

/-- What is behind the title. -/
def tail : List Char :=
  header.options ++ (marker ++ ' ' :: '\'' :: (header.id ++ '\'' :: ' ' :: ['{']))

def text (keyword : List Char) : List Char :=
  keyword ++ ' ' :: '\'' :: (quote header.title ++ '\'' :: header.tail)

def line (keyword : List Char) : List Char := header.lead ++ header.text keyword

end Header

/-- A line that is no header. -/
structure OtherLine where
  text : List Char
  notSubmenu : "submenu ".toList.isPrefixOf (text.dropWhile isTrimmed) = false
  notMenuentry : "menuentry ".toList.isPrefixOf (text.dropWhile isTrimmed) = false
  evenText : EvenBraces text

/-- The line of the brace that ends a block. -/
structure Closing where
  lead : List Char
  blankLead : ∀ c ∈ lead, isTrimmed c = true

def Closing.line (closing : Closing) : List Char := closing.lead ++ ['}']

/-- The lines of a well-formed menu. -/
inductive Menu where
  | done
  | other (line : OtherLine) (rest : Menu)
  | entry (header : Header) (body : List OtherLine) (closing : Closing) (rest : Menu)
  | submenu (header : Header) (children : Menu) (closing : Closing) (rest : Menu)

def menuentry : List Char := "menuentry".toList

def submenu : List Char := "submenu".toList

namespace Menu

def lines : Menu → List (List Char)
  | done => []
  | other line rest => line.text :: rest.lines
  | entry header body closing rest =>
    header.line menuentry :: (body.map (·.text) ++ closing.line :: rest.lines)
  | submenu header children closing rest =>
    header.line Grub.submenu :: (children.lines ++ closing.line :: rest.lines)

def titles : Menu → List (List Char)
  | done => []
  | other _ rest => rest.titles
  | entry header _ _ rest => header.title :: rest.titles
  | submenu header children _ rest => header.title :: (children.titles ++ rest.titles)

end Menu

/-- The image that an entry boots: of several the last. -/
def bodyImage (body : List OtherLine) : Option (List Char) :=
  (body.filterMap fun line => kernelImage (line.text.dropWhile isTrimmed)).getLast?

/-- The entries that boot a Linux image, by their ids below the submenus, and their images. -/
def bootable (path : List (List Char)) : Menu → List (List Char × Option (List Char))
  | .done => []
  | .other _ rest => bootable path rest
  | .entry header body _ rest =>
    (if (bodyImage body).isSome then [(joinIds (path ++ [header.id]), bodyImage body)] else []) ++
      bootable path rest
  | .submenu header children _ rest => bootable (path ++ [header.id]) children ++ bootable path rest

/-- What the parser finds, by ids and images. -/
def found (text : List Char) : List (List Char × Option (List Char)) :=
  (parseGrubCfg text).map fun entry => (entry.id, entry.kernelImage)

/-- A title that the scan does not mistake for structure. -/
structure PlainTitle (title : List Char) : Prop where
  even : EvenBraces title
  noMarker : ¬marker <:+: title

/-! ## Headers -/

theorem count_dropWhile {c : Char} (hc : isTrimmed c = false) (text : List Char) :
    (text.dropWhile isTrimmed).count c = text.count c := by
  have hblank : (text.takeWhile isTrimmed).count c = 0 := by
    rw [List.count_eq_zero]
    intro hmem
    rw [List.mem_takeWhile_imp hmem] at hc
    contradiction
  calc (text.dropWhile isTrimmed).count c
      = (text.takeWhile isTrimmed ++ text.dropWhile isTrimmed).count c := by
        rw [List.count_append, hblank, Nat.zero_add]
    _ = text.count c := by rw [List.takeWhile_append_dropWhile]

theorem count_quote {c : Char} (hquote : c ≠ '\'') (hescape : c ≠ '\\') (title : List Char) :
    (quote title).count c = title.count c := by
  induction title with
  | nil => rfl
  | cons d title ih =>
    rw [quote, List.flatMap_cons, List.count_append, List.count_cons]
    show _ + (quote title).count c = _
    rw [ih]
    by_cases hd : d = '\''
    · subst hd
      simp [Ne.symm hquote, Ne.symm hescape]
    · rw [if_neg hd, List.count_cons, List.count_nil]
      omega

/-- A text without apostrophes is at the start of what is quoted only if it is at the start of the
title. -/
theorem prefix_of_prefix_quote {text : List Char} (htext : '\'' ∉ text) (title rest : List Char)
    (h : text <+: quote title ++ '\'' :: rest) : text <+: title := by
  induction title generalizing text with
  | nil =>
    rcases text with _ | ⟨c, text⟩
    · exact List.nil_prefix
    · obtain ⟨rfl, -⟩ := List.cons_prefix_cons.mp h
      exact absurd List.mem_cons_self htext
  | cons d title ih =>
    rcases text with _ | ⟨c, text⟩
    · exact List.nil_prefix
    obtain ⟨hc, hrest⟩ := not_or.mp (mt List.mem_cons.mpr htext)
    by_cases hd : d = '\''
    · subst hd
      obtain ⟨rfl, -⟩ := List.cons_prefix_cons.mp h
      exact absurd rfl hc
    · have hquote : quote (d :: title) = d :: quote title := by
        rw [quote, List.flatMap_cons, if_neg hd]
        rfl
      rw [hquote] at h
      obtain ⟨rfl, hmore⟩ := List.cons_prefix_cons.mp h
      exact List.cons_prefix_cons.mpr ⟨rfl, ih hrest hmore⟩

theorem afterMarker_skip {skipped : List Char} (h : '$' ∉ skipped) (rest : List Char) :
    afterMarker (skipped ++ rest) = afterMarker rest := by
  induction skipped with
  | nil => rfl
  | cons c skipped ih =>
    obtain ⟨hc, hrest⟩ := not_or.mp (mt List.mem_cons.mpr h)
    have hnot : ¬marker.isPrefixOf (c :: (skipped ++ rest)) = true := by
      rw [List.isPrefixOf_iff_prefix]
      exact fun hstarts => hc (List.cons_prefix_cons.mp hstarts).1
    rw [List.cons_append, afterMarker, if_neg hnot, ih hrest]

theorem afterMarker_marker (rest : List Char) : afterMarker (marker ++ rest) = some rest := by
  have hstarts : marker.isPrefixOf (marker ++ rest) = true :=
    List.isPrefixOf_iff_prefix.mpr (List.prefix_append marker rest)
  rw [show marker ++ rest = '$' :: ("menuentry_id_option".toList ++ rest) from rfl] at hstarts ⊢
  rw [afterMarker, if_pos hstarts]
  rfl

theorem apostrophe_not_mem_marker : '\'' ∉ marker := by decide

variable {title : List Char}

/-- A title without the marker is passed over. -/
theorem afterMarker_quote (h : ¬marker <:+: title) (rest : List Char) :
    afterMarker (quote title ++ '\'' :: rest) = afterMarker ('\'' :: rest) := by
  induction title with
  | nil => rfl
  | cons c title ih =>
    have hrest : ¬marker <:+: title := fun hin => h (List.infix_cons hin)
    by_cases hc : c = '\''
    · subst hc
      have hescape := afterMarker_skip (show '$' ∉ ['\'', '\\', '\'', '\''] by decide)
        (quote title ++ '\'' :: rest)
      exact hescape.trans (ih hrest)
    · have hquote : quote (c :: title) = c :: quote title := by
        rw [quote, List.flatMap_cons, if_neg hc]
        rfl
      have hnot : ¬marker.isPrefixOf (c :: (quote title ++ '\'' :: rest)) = true := by
        rw [List.isPrefixOf_iff_prefix]
        intro hstarts
        rw [← List.cons_append, ← hquote] at hstarts
        exact h (prefix_of_prefix_quote apostrophe_not_mem_marker (c :: title) rest hstarts).isInfix
      rw [hquote, List.cons_append, afterMarker, if_neg hnot, ih hrest]

theorem quote_append (title more : List Char) : quote (title ++ more) = quote title ++ quote more :=
  List.flatMap_append

theorem quote_plain (h : '\'' ∉ title) : quote title = title := by
  induction title with
  | nil => rfl
  | cons c title ih =>
    obtain ⟨hc, hrest⟩ := not_or.mp (mt List.mem_cons.mpr h)
    rw [quote, List.flatMap_cons, if_neg (Ne.symm hc)]
    exact congrArg (c :: ·) (ih hrest)

/-- A title with the marker: what is found is behind that. -/
theorem afterMarker_quote_of_marker (h : marker <:+: title) (rest : List Char) :
    ∃ behind, afterMarker (quote title ++ '\'' :: rest) = some (quote behind ++ '\'' :: rest) := by
  induction title with
  | nil => exact absurd (List.infix_nil.mp h) (by decide)
  | cons c title ih =>
    by_cases hc : c = '\''
    · subst hc
      have hin : marker <:+: title := by
        rcases List.infix_cons_iff.mp h with hstarts | hin
        · exact absurd (List.cons_prefix_cons.mp hstarts).1 (by decide)
        · exact hin
      obtain ⟨behind, hbehind⟩ := ih hin
      have hescape := afterMarker_skip (show '$' ∉ ['\'', '\\', '\'', '\''] by decide)
        (quote title ++ '\'' :: rest)
      exact ⟨behind, hescape.trans hbehind⟩
    · by_cases hstarts : marker <+: c :: title
      · obtain ⟨behind, hbehind⟩ := hstarts
        rw [← hbehind, quote_append, quote_plain apostrophe_not_mem_marker, List.append_assoc]
        exact ⟨behind, afterMarker_marker _⟩
      · obtain ⟨behind, hbehind⟩ := ih ((List.infix_cons_iff.mp h).resolve_left hstarts)
        have hquote : quote (c :: title) = c :: quote title := by
          rw [quote, List.flatMap_cons, if_neg hc]
          rfl
        have hnot : ¬marker.isPrefixOf (c :: (quote title ++ '\'' :: rest)) = true := by
          rw [List.isPrefixOf_iff_prefix, ← List.cons_append, ← hquote]
          exact fun hfound => hstarts
            (prefix_of_prefix_quote apostrophe_not_mem_marker _ rest hfound)
        refine ⟨behind, ?_⟩
        rw [hquote, List.cons_append, afterMarker, if_neg hnot, hbehind]

theorem firstQuoted_between {before text : List Char} (hbefore : '\'' ∉ before)
    (htext : '\'' ∉ text) (rest : List Char) :
    firstQuoted (before ++ '\'' :: (text ++ '\'' :: rest)) = some text := by
  have hother : ∀ {chars : List Char}, '\'' ∉ chars → ∀ c ∈ chars, decide (c ≠ '\'') = true :=
    fun hchars c hc => decide_eq_true fun heq : c = '\'' => hchars (heq ▸ hc)
  have hdrop : (before ++ '\'' :: (text ++ '\'' :: rest)).dropWhile (· ≠ '\'') =
      '\'' :: (text ++ '\'' :: rest) := by
    rw [List.dropWhile_append_of_pos (hother hbefore)]
    exact List.dropWhile_cons_of_neg (by simp)
  have htake : (text ++ '\'' :: rest).takeWhile (· ≠ '\'') = text := by
    rw [List.takeWhile_append_of_pos (hother htext), List.takeWhile_cons_of_neg (by simp),
      List.append_nil]
  rw [firstQuoted, hdrop]
  dsimp only
  rw [if_pos (by simp), htake]

namespace Header
variable {header : Header} {keyword : List Char}

theorem quotedAfter_text (hkeyword : '$' ∉ keyword) (htitle : ¬marker <:+: header.title) :
    quotedAfter (header.text keyword) = some header.id := by
  have htail : afterMarker ('\'' :: header.tail) =
      some (' ' :: '\'' :: (header.id ++ '\'' :: ' ' :: ['{'])) := by
    have hskip := afterMarker_skip (show '$' ∉ '\'' :: header.options by simp [header.plainOptions])
      (marker ++ ' ' :: '\'' :: (header.id ++ '\'' :: ' ' :: ['{']))
    exact hskip.trans (afterMarker_marker _)
  have htext : afterMarker (header.text keyword) =
      some (' ' :: '\'' :: (header.id ++ '\'' :: ' ' :: ['{'])) := by
    have hskip := afterMarker_skip (show '$' ∉ keyword ++ [' ', '\''] by simp [hkeyword])
      (quote header.title ++ '\'' :: header.tail)
    rw [List.append_assoc] at hskip
    exact hskip.trans ((afterMarker_quote htitle _).trans htail)
  rw [quotedAfter, htext]
  exact firstQuoted_between (show '\'' ∉ [' '] by decide) header.plainId _

/-- The header of an entry or of a submenu. -/
def IsKeyword (keyword : List Char) : Prop := keyword = menuentry ∨ keyword = submenu

theorem dropWhile_line (hkeyword : IsKeyword keyword) :
    (header.line keyword).dropWhile isTrimmed = header.text keyword := by
  rcases hkeyword with rfl | rfl
  · exact dropWhile_lead header.blankLead (show isTrimmed 'm' = false by decide) _
  · exact dropWhile_lead header.blankLead (show isTrimmed 's' = false by decide) _

/-- A header boots nothing. -/
theorem kernelImage_text (hkeyword : IsKeyword keyword) :
    kernelImage (header.text keyword) = none := by
  have hword : keyword ≠ [] ∧ (keyword.all fun c => !isTrimmed c) = true ∧
      ¬(keyword = "linux".toList ∨ keyword = "linux16".toList ∨ keyword = "linuxefi".toList) := by
    rcases hkeyword with rfl | rfl <;> decide
  have hplain : ∀ c ∈ keyword, isTrimmed c = false := by
    intro c hc
    simpa using List.all_eq_true.mp hword.2.1 c hc
  rw [kernelImage, text, splitWhitespace_word hword.1 hplain (show isTrimmed ' ' = true by decide)]
  rcases splitWhitespace ('\'' :: (quote header.title ++ '\'' :: header.tail)) with
    _ | ⟨image, more⟩
  · rfl
  · exact if_neg hword.2.2

theorem count_line (hkeyword : IsKeyword keyword) :
    (header.line keyword).count '{' =
        header.title.count '{' + header.options.count '{' + header.id.count '{' + 1 ∧
      (header.line keyword).count '}' =
        header.title.count '}' + header.options.count '}' + header.id.count '}' := by
  have hnone : keyword.count '{' = 0 ∧ keyword.count '}' = 0 := by
    rcases hkeyword with rfl | rfl <;> decide
  have hmarker : marker.count '{' = 0 ∧ marker.count '}' = 0 := by decide
  rw [← count_dropWhile (show isTrimmed '{' = false by decide) (header.line keyword),
    ← count_dropWhile (show isTrimmed '}' = false by decide) (header.line keyword),
    dropWhile_line hkeyword]
  constructor
  · simp [text, tail, count_quote, hnone, hmarker]
    omega
  · simp [text, tail, count_quote, hnone, hmarker]
    omega

/-- The one brace of a plain header is the one that opens its block. -/
theorem count_line_plain (hkeyword : IsKeyword keyword) (heven : EvenBraces header.title) :
    (header.line keyword).count '{' = (header.line keyword).count '}' + 1 := by
  have heven : header.title.count '{' = header.title.count '}' := heven
  have hoptions : header.options.count '{' = header.options.count '}' := header.evenOptions
  have hid : header.id.count '{' = header.id.count '}' := header.evenId
  have hline := @count_line header _ hkeyword
  omega

end Header

/-! ## Lines -/

/-- Below the depth nothing that the scan remembers ends. -/
structure Scan.Below (scan : Scan) (depth : Nat) : Prop where
  current : scan.current.isSome → scan.currentDepth < depth
  stack : ∀ submenu ∈ scan.submenuStack, submenu.2 < depth

theorem dropWhile_of_below {stack : List (List Char × Nat)} {depth : Nat}
    (h : ∀ submenu ∈ stack, submenu.2 < depth) : stack.dropWhile (·.2 = depth) = stack := by
  rcases stack with _ | ⟨first, stack⟩
  · rfl
  · have hfirst := h first List.mem_cons_self
    exact List.dropWhile_cons_of_neg (by simp; omega)

/-- Braces that close deeper blocks only count down. -/
theorem closeBrace_iterate {scan : Scan} {depth : Nat} (h : scan.Below depth) (n : Nat) :
    closeBrace^[n] { scan with depth := depth + n } = { scan with depth } := by
  induction n with
  | zero => rfl
  | succ n ih =>
    have hended : ¬(scan.current.isSome = true ∧ depth + n = scan.currentDepth) := by
      rintro ⟨hsome, hdepth⟩
      have := h.current hsome
      omega
    have hkept : scan.submenuStack.dropWhile (·.2 = depth + n) = scan.submenuStack :=
      dropWhile_of_below fun submenu hmem => Nat.lt_add_right n (h.stack submenu hmem)
    have hstep : closeBrace { scan with depth := depth + (n + 1) } = { scan with
        depth := depth + n } := by
      simp [closeBrace, hended, hkept]
    rw [Function.iterate_succ_apply, hstep, ih]

/-- A line whose words lead to `opened`. -/
theorem scanLine_of_words {scan opened : Scan} {line : List Char}
    (hwords : setKernelImage (openMenuentry (openSubmenu scan (line.dropWhile isTrimmed))
      (line.dropWhile isTrimmed)) (line.dropWhile isTrimmed) = opened) :
    scanLine scan line =
      closeBrace^[line.count '}'] { opened with depth := opened.depth + line.count '{' } := by
  rw [scanLine, hwords, count_dropWhile (by decide), count_dropWhile (by decide)]

/-- A line that opens so many blocks more than it closes. -/
theorem scanLine_of_below {scan opened : Scan} {line : List Char} {more : Nat}
    (hwords : setKernelImage (openMenuentry (openSubmenu scan (line.dropWhile isTrimmed))
      (line.dropWhile isTrimmed)) (line.dropWhile isTrimmed) = opened)
    (hcount : line.count '{' = line.count '}' + more) (h : opened.Below (opened.depth + more)) :
    scanLine scan line = { opened with depth := opened.depth + more } := by
  rw [scanLine_of_words hwords, hcount, Nat.add_comm (line.count '}'), ← Nat.add_assoc]
  exact closeBrace_iterate h _

theorem setKernelImage_none {scan : Scan} {trimmed : List Char} (h : kernelImage trimmed = none) :
    setKernelImage scan trimmed = scan := by
  rw [setKernelImage, h]
  rcases scan.current with _ | entry <;> rfl

variable (line : OtherLine)

theorem OtherLine.count_text : line.text.count '{' = line.text.count '}' + 0 := line.evenText

theorem words_other (scan : Scan) :
    setKernelImage (openMenuentry (openSubmenu scan (line.text.dropWhile isTrimmed))
      (line.text.dropWhile isTrimmed)) (line.text.dropWhile isTrimmed) =
      setKernelImage scan (line.text.dropWhile isTrimmed) := by
  rw [openSubmenu, line.notSubmenu, if_neg Bool.false_ne_true, openMenuentry, line.notMenuentry,
    if_neg Bool.false_ne_true]

variable (scan : Scan)

/-- The image changes nothing else. -/
theorem setKernelImage_eq (trimmed : List Char) :
    ∃ current, setKernelImage scan trimmed = { scan with current } ∧
      current.isSome = scan.current.isSome := by
  rw [setKernelImage]
  split
  · next entry image hcurrent himage => exact ⟨_, rfl, by rw [hcurrent]; rfl⟩
  · exact ⟨scan.current, rfl, rfl⟩

theorem scanLine_other {scan : Scan} (h : scan.Below scan.depth) :
    scanLine scan line.text = setKernelImage scan (line.text.dropWhile isTrimmed) := by
  obtain ⟨current, hset, hsome⟩ := setKernelImage_eq scan (line.text.dropWhile isTrimmed)
  have hwords := (words_other line scan).trans hset
  rw [hset]
  exact scanLine_of_below hwords line.count_text
    ⟨fun hcurrent => h.current (hsome ▸ hcurrent), h.stack⟩

theorem scanLine_closing (closing : Closing) (scan : Scan) :
    scanLine scan closing.line = closeBrace scan := by
  have htrimmed : closing.line.dropWhile isTrimmed = ['}'] :=
    dropWhile_lead closing.blankLead (show isTrimmed '}' = false by decide) []
  have hcount : closing.line.count '{' = 0 ∧ closing.line.count '}' = 1 := by
    rw [← count_dropWhile (by decide), ← count_dropWhile (by decide) closing.line, htrimmed]
    decide
  have hwords : setKernelImage (openMenuentry (openSubmenu scan (closing.line.dropWhile isTrimmed))
      (closing.line.dropWhile isTrimmed)) (closing.line.dropWhile isTrimmed) = scan := by
    rw [htrimmed]
    exact setKernelImage_none (by decide)
  rw [scanLine_of_words hwords, hcount.1, hcount.2]
  rfl

/-- What identifies an entry of the menu. -/
def BootEntry.key (entry : BootEntry) : List Char × Option (List Char) :=
  (entry.id, entry.kernelImage)

section Headers
variable {header : Header} {id : List Char} (scan : Scan)

theorem words_menuentry (h : quotedAfter (header.text menuentry) = some id) :
    ∃ entry : BootEntry, entry.key = (joinIds ((scan.submenuStack.map (·.1)).reverse ++ [id]),
      none) ∧
      setKernelImage (openMenuentry (openSubmenu scan ((header.line menuentry).dropWhile isTrimmed))
        ((header.line menuentry).dropWhile isTrimmed))
          ((header.line menuentry).dropWhile isTrimmed) =
      { scan with current := some entry, currentDepth := scan.depth } := by
  have hstarts : "menuentry ".toList.isPrefixOf (header.text menuentry) = true :=
    List.isPrefixOf_iff_prefix.mpr ⟨_, rfl⟩
  have hother : openSubmenu scan (header.text menuentry) = scan := rfl
  rw [Header.dropWhile_line (Or.inl rfl),
    setKernelImage_none (Header.kernelImage_text (Or.inl rfl)), hother,
    openMenuentry, if_pos hstarts, h]
  exact ⟨_, rfl, rfl⟩

theorem words_submenu (h : quotedAfter (header.text submenu) = some id) :
    setKernelImage (openMenuentry (openSubmenu scan ((header.line submenu).dropWhile isTrimmed))
        ((header.line submenu).dropWhile isTrimmed)) ((header.line submenu).dropWhile isTrimmed) =
      { scan with submenuStack := (id, scan.depth) :: scan.submenuStack } := by
  have hstarts : "submenu ".toList.isPrefixOf (header.text submenu) = true :=
    List.isPrefixOf_iff_prefix.mpr ⟨_, rfl⟩
  rw [Header.dropWhile_line (Or.inr rfl),
    setKernelImage_none (Header.kernelImage_text (Or.inr rfl)),
    openSubmenu, if_pos hstarts, h]
  rfl

end Headers

theorem bodyImage_cons (body : List OtherLine) :
    bodyImage (line :: body) = (bodyImage body).or
      (kernelImage (line.text.dropWhile isTrimmed)) := by
  rw [bodyImage, bodyImage, List.filterMap_cons]
  rcases kernelImage (line.text.dropWhile isTrimmed) with _ | image
  · rw [Option.or_none]
  · dsimp only
    rw [List.getLast?_cons, Option.or_some]

/-- The lines of a body change the image of the entry only. -/
theorem scan_body (body : List OtherLine) {scan : Scan} {entry : BootEntry}
    (hcurrent : scan.current = some entry) (h : scan.Below scan.depth) :
    ∃ last : BootEntry, last.key = (entry.id, (bodyImage body).or entry.kernelImage) ∧
      (body.map (·.text)).foldl scanLine scan = { scan with current := some last } := by
  induction body generalizing scan entry with
  | nil => exact ⟨entry, rfl, by rw [← hcurrent]; rfl⟩
  | cons line body ih =>
    rw [List.map_cons, List.foldl_cons, scanLine_other line h, bodyImage_cons]
    rcases himage : kernelImage (line.text.dropWhile isTrimmed) with _ | image
    · rw [setKernelImage_none himage, Option.or_none]
      exact ih hcurrent h
    · rw [setKernelImage, hcurrent, himage]
      let booting : BootEntry :=
        { entry with
          kernelImage := some image, version := (rsplitOnce "vmlinuz-".toList image).map (·.2) }
      obtain ⟨last, hkey, hfold⟩ := @ih { scan with current := some booting } booting rfl
        ⟨fun _ => h.current (by rw [hcurrent]; rfl), h.stack⟩
      exact ⟨last, by rw [hkey, Option.or_assoc]; rfl, hfold⟩

/-! ## The scan of a menu -/

theorem quotedAfter_plain {header : Header} (h : PlainTitle header.title) {keyword : List Char}
    (hkeyword : Header.IsKeyword keyword) : quotedAfter (header.text keyword) = some header.id := by
  refine Header.quotedAfter_text ?_ h.noMarker
  rcases hkeyword with rfl | rfl <;> decide

/-- An entry that starts outside of all others is recorded when its block ends. -/
theorem scan_entry (header : Header) (body : List OtherLine) (closing : Closing)
    (hplain : PlainTitle header.title) {scan : Scan}
    (hbelow : ∀ submenu ∈ scan.submenuStack, submenu.2 < scan.depth) :
    ∃ entry : BootEntry,
      entry.key = (joinIds ((scan.submenuStack.map (·.1)).reverse ++ [header.id]), bodyImage body) ∧
      (header.line menuentry :: (body.map (·.text) ++ [closing.line])).foldl scanLine scan =
        { scan with
          entries := scan.entries ++ [entry], current := none, currentDepth := scan.depth } := by
  obtain ⟨entry, hentry, hwords⟩ := words_menuentry scan (quotedAfter_plain hplain (Or.inl rfl))
  have hopened := scanLine_of_below hwords (Header.count_line_plain (Or.inl rfl) hplain.even)
    ⟨fun _ => Nat.lt_succ_self scan.depth,
      fun submenu hmem => Nat.lt_succ_of_lt (hbelow submenu hmem)⟩
  obtain ⟨last, hlast, hbody⟩ := @scan_body body
    { scan with current := some entry, currentDepth := scan.depth, depth := scan.depth + 1 } entry
      rfl
    ⟨fun _ => Nat.lt_succ_self scan.depth,
      fun submenu hmem => Nat.lt_succ_of_lt (hbelow submenu hmem)⟩
  refine ⟨last, ?_, ?_⟩
  · rw [hlast, show entry.kernelImage = none from congrArg Prod.snd hentry, Option.or_none,
      show entry.id = _ from congrArg Prod.fst hentry]
  · rw [List.foldl_cons, hopened, List.foldl_append, hbody, List.foldl_cons, List.foldl_nil,
      scanLine_closing]
    simp [closeBrace, dropWhile_of_below hbelow]

theorem scan_menu (menu : Menu) {scan : Scan} (hnone : scan.current = none)
    (hbelow : ∀ submenu ∈ scan.submenuStack, submenu.2 < scan.depth)
    (hplain : ∀ title ∈ menu.titles, PlainTitle title) :
    ∃ entries currentDepth,
      menu.lines.foldl scanLine scan = { scan with
        entries := scan.entries ++ entries, currentDepth } ∧
      (entries.filter (·.kernelImage.isSome)).map BootEntry.key =
        bootable (scan.submenuStack.map (·.1)).reverse menu := by
  induction menu generalizing scan with
  | done => exact ⟨[], scan.currentDepth, by rw [List.append_nil]; rfl, rfl⟩
  | other line rest ih =>
    have hline : scanLine scan line.text = scan := by
      rw [scanLine_other line ⟨fun hsome => by simp [hnone] at hsome, hbelow⟩, setKernelImage,
        hnone]
    rw [Menu.lines, List.foldl_cons, hline]
    exact ih hnone hbelow hplain
  | entry header body closing rest ih =>
    obtain ⟨hheader, hrest⟩ := List.forall_mem_cons.mp hplain
    obtain ⟨entry, hkey, hentry⟩ := scan_entry header body closing hheader hbelow
    obtain ⟨entries, currentDepth, hfold, hfound⟩ := @ih { scan with
      entries := scan.entries ++ [entry], current := none,
      currentDepth := scan.depth } rfl hbelow hrest
    refine ⟨entry :: entries, currentDepth, ?_, ?_⟩
    · rw [Menu.lines, List.append_cons, ← List.cons_append, List.foldl_append, hentry, hfold]
      simp [hnone]
    · rw [List.filter_cons, bootable, ← hfound,
        show entry.kernelImage = _ from congrArg Prod.snd hkey]
      by_cases hboots : (bodyImage body).isSome = true
      · rw [if_pos hboots, if_pos hboots, List.map_cons, hkey]
        rfl
      · rw [if_neg hboots, if_neg hboots]
        rfl
  | submenu header children closing rest ihChildren ihRest =>
    obtain ⟨hheader, hothers⟩ := List.forall_mem_cons.mp hplain
    obtain ⟨hchildren, hrest⟩ := List.forall_mem_append.mp hothers
    have hstack : ∀ submenu ∈ (header.id, scan.depth) :: scan.submenuStack,
        submenu.2 < scan.depth + 1 :=
      List.forall_mem_cons.mpr
        ⟨Nat.lt_succ_self scan.depth, fun submenu hmem => Nat.lt_succ_of_lt (hbelow submenu hmem)⟩
    have hopened := scanLine_of_below (words_submenu scan (quotedAfter_plain hheader (Or.inr rfl)))
      (Header.count_line_plain (Or.inr rfl) hheader.even)
        ⟨fun hsome => by simp [hnone] at hsome, hstack⟩
    obtain ⟨inner, innerDepth, hinner, hinnerFound⟩ := @ihChildren { scan with
      submenuStack := (header.id, scan.depth) :: scan.submenuStack,
      depth := scan.depth + 1 } hnone hstack hchildren
    obtain ⟨entries, currentDepth, hfold, hfound⟩ := @ihRest { scan with
      entries := scan.entries ++ inner, currentDepth := innerDepth } hnone hbelow hrest
    have hclosed : closeBrace { scan with
        submenuStack := (header.id, scan.depth) :: scan.submenuStack
        depth := scan.depth + 1
        entries := scan.entries ++ inner
        currentDepth := innerDepth } =
        { scan with entries := scan.entries ++ inner, currentDepth := innerDepth } := by
      simp [closeBrace, hnone, dropWhile_of_below hbelow]
    refine ⟨inner ++ entries, currentDepth, ?_, ?_⟩
    · rw [Menu.lines, List.foldl_cons, hopened, List.foldl_append, hinner, List.foldl_cons,
        scanLine_closing, hclosed, hfold, List.append_assoc]
    · rw [List.filter_append, List.map_append, hinnerFound, hfound, bootable]
      simp

theorem found_of_plain {menu : Menu} {text : List Char} (hlines : strLines text = menu.lines)
    (hplain : ∀ title ∈ menu.titles, PlainTitle title) : found text = bootable [] menu := by
  obtain ⟨entries, currentDepth, hfold, hfound⟩ := @scan_menu menu .start rfl nofun hplain
  rw [found, parseGrubCfg, hlines, hfold]
  exact hfound

/-- A title is in a line, so that it has no newline. -/
theorem quote_infix_line {menu : Menu} (h : title ∈ menu.titles) :
    ∃ line ∈ menu.lines, quote title <:+: line := by
  have hheader : ∀ (header : Header) (keyword : List Char),
      quote header.title <:+: header.line keyword := by
    intro header keyword
    refine ⟨header.lead ++ keyword ++ [' ', '\''], '\'' :: header.tail, ?_⟩
    simp [Header.line, Header.text]
  induction menu with
  | done => exact absurd h List.not_mem_nil
  | other line rest ih =>
    obtain ⟨found, hmem, hin⟩ := ih h
    exact ⟨found, List.mem_cons_of_mem _ hmem, hin⟩
  | entry header body closing rest ih =>
    rcases List.mem_cons.mp h with rfl | h
    · exact ⟨_, List.mem_cons_self, hheader header menuentry⟩
    · obtain ⟨found, hmem, hin⟩ := ih h
      exact ⟨found, List.mem_cons_of_mem _ (List.mem_append_right _ (List.mem_cons_of_mem _ hmem)),
        hin⟩
  | submenu header children closing rest ihChildren ihRest =>
    rcases List.mem_cons.mp h with rfl | h
    · exact ⟨_, List.mem_cons_self, hheader header submenu⟩
    · rcases List.mem_append.mp h with h | h
      · obtain ⟨found, hmem, hin⟩ := ihChildren h
        exact ⟨found, List.mem_cons_of_mem _ (List.mem_append_left _ hmem), hin⟩
      · obtain ⟨found, hmem, hin⟩ := ihRest h
        exact ⟨found, List.mem_cons_of_mem _
          (List.mem_append_right _ (List.mem_cons_of_mem _ hmem)), hin⟩

theorem newline_mem_quote : '\n' ∈ quote title ↔ '\n' ∈ title := by
  rw [← List.count_pos_iff, count_quote (by decide) (by decide), List.count_pos_iff]

/-! ## Titles that mislead the scan -/

section Lone
variable (title : List Char)

theorem blank_nil : ∀ c ∈ ([] : List Char), isTrimmed c = true := by simp

def loneHeader : Header where
  lead := []
  title
  options := []
  id := ['a']
  blankLead := blank_nil
  plainOptions := by decide
  evenOptions := by decide
  plainId := by decide
  evenId := by decide

def imageLine : OtherLine where
  text := "linux /vmlinuz".toList
  notSubmenu := by decide
  notMenuentry := by decide
  evenText := by decide

/-- One entry, under the title. -/
def loneMenu : Menu := .entry (loneHeader title) [imageLine] ⟨[], blank_nil⟩ .done

def loneText : List Char := (loneMenu title).lines.flatMap (· ++ ['\n'])

theorem bootable_loneMenu : bootable [] (loneMenu title) = [(['a'], some "/vmlinuz".toList)] := by
  have himage : bodyImage [imageLine] = some "/vmlinuz".toList := by decide
  rw [loneMenu, bootable, himage]
  rfl

variable {title}

theorem strLines_loneText (h : '\n' ∉ title) :
    strLines (loneText title) = (loneMenu title).lines := by
  refine strLines_flatMap fun line hmem => ?_
  have hlines : (loneMenu title).lines =
      [(loneHeader title).line menuentry, imageLine.text, ['}']] := rfl
  rw [hlines, List.mem_cons, List.mem_cons, List.mem_singleton] at hmem
  rcases hmem with rfl | rfl | rfl
  · have hlast : (loneHeader title).line menuentry =
        (menuentry ++ ' ' :: '\'' :: (quote title ++ '\'' :: (marker ++ " 'a' ".toList))) ++
          ['{'] := by
      simp [Header.line, Header.text, Header.tail, loneHeader]
    rw [hlast]
    constructor
    · have hquote := mt newline_mem_quote.mp h
      have hmenuentry : '\n' ∉ menuentry := by decide
      have hmarker : '\n' ∉ marker := by decide
      simp [hquote, hmenuentry, hmarker]
    · rw [List.getLast?_concat]
      decide
  · decide
  · decide

/-- What the three lines come to. -/
theorem found_loneText (h : '\n' ∉ title) :
    found (loneText title) =
      ((closeBrace (setKernelImage (scanLine .start ((loneHeader title).line menuentry))
        imageLine.text)).entries.filter
        (·.kernelImage.isSome)).map BootEntry.key := by
  have himage : ∀ scan : Scan, scanLine scan imageLine.text =
      setKernelImage scan imageLine.text := by
    intro scan
    rw [scanLine_of_words (words_other imageLine scan)]
    rfl
  rw [found, parseGrubCfg, strLines_loneText h, ← himage, ← scanLine_closing ⟨[], blank_nil⟩]
  rfl

end Lone

/-- The ids of what is recorded and of what may still be. -/
def Scan.ids (scan : Scan) : List (List Char) := (scan.entries ++ scan.current.toList).map (·.id)

theorem ids_closeBrace : (closeBrace scan).ids = scan.ids := by
  rw [closeBrace]
  dsimp only [Scan.ids]
  split
  · simp
  · rfl

theorem ids_closeBrace_iterate (n : Nat) : (closeBrace^[n] scan).ids = scan.ids := by
  induction n generalizing scan with
  | zero => rfl
  | succ n ih => rw [Function.iterate_succ_apply, ih, ids_closeBrace]

theorem ids_setKernelImage (trimmed : List Char) :
    (setKernelImage scan trimmed).ids = scan.ids := by
  rw [setKernelImage]
  split
  · next entry image hcurrent himage => simp [Scan.ids, hcurrent]
  · rfl

/-- An entry that ended without an image, and nothing that could get one. -/
structure Scan.Imageless (scan : Scan) : Prop where
  none_current : scan.current = none
  none_image : ∀ entry ∈ scan.entries, entry.kernelImage = none

theorem Scan.Imageless.closeBrace {scan : Scan} (h : scan.Imageless) :
    (Grub.closeBrace scan).Imageless := by
  have hnone := h.none_current
  refine ⟨?_, ?_⟩
  · simp [Grub.closeBrace, hnone]
  · simpa [Grub.closeBrace, hnone] using h.none_image

theorem Scan.Imageless.iterate {scan : Scan} (h : scan.Imageless) (n : Nat) :
    (Grub.closeBrace^[n] scan).Imageless := by
  induction n generalizing scan with
  | zero => exact h
  | succ n ih => exact ih h.closeBrace

section Misled
variable {title : List Char}

/-- The id is not taken from behind the title's marker, but from among the quotes around it. -/
theorem quotedAfter_of_marker (h : marker <:+: title) :
    ∃ id, quotedAfter ((loneHeader title).text menuentry) = some id ∧ id ≠ ['a'] := by
  obtain ⟨behind, hbehind⟩ := afterMarker_quote_of_marker h (loneHeader title).tail
  have hfound : quotedAfter ((loneHeader title).text menuentry) =
      firstQuoted (quote behind ++ '\'' :: (loneHeader title).tail) := by
    have hskip := afterMarker_skip (show '$' ∉ menuentry ++ [' ', '\''] by decide)
      (quote title ++ '\'' :: (loneHeader title).tail)
    rw [List.append_assoc] at hskip
    rw [quotedAfter,
      show afterMarker ((loneHeader title).text menuentry) = _ from hskip.trans hbehind]
    rfl
  rw [hfound]
  by_cases hescaped : '\'' ∈ behind
  · obtain ⟨first, rest, rfl, hfirst⟩ := List.eq_append_cons_of_mem hescaped
    refine ⟨['\\'], ?_, by decide⟩
    have hquote : quote (first ++ '\'' :: rest) ++ '\'' :: (loneHeader title).tail =
        first ++ '\'' :: (['\\'] ++
          '\'' :: ('\'' :: (quote rest ++ '\'' :: (loneHeader title).tail))) := by
      rw [quote_append, quote_plain hfirst, List.append_assoc]
      rfl
    rw [hquote]
    exact firstQuoted_between hfirst (show '\'' ∉ ['\\'] by decide) _
  · refine ⟨marker ++ [' '], ?_, by decide⟩
    rw [quote_plain hescaped]
    exact firstQuoted_between hescaped (show '\'' ∉ marker ++ [' '] by decide)
      ('a' :: '\'' :: ' ' :: ['{'])

theorem found_ne_of_marker (hnewline : '\n' ∉ title) (h : marker <:+: title) :
    found (loneText title) ≠ bootable [] (loneMenu title) := by
  obtain ⟨id, hid, hne⟩ := quotedAfter_of_marker h
  obtain ⟨entry, hentry, hwords⟩ := words_menuentry .start hid
  have hids : (closeBrace (setKernelImage (scanLine .start ((loneHeader title).line menuentry))
      imageLine.text)).ids = [id] := by
    rw [ids_closeBrace, ids_setKernelImage, scanLine_of_words hwords, ids_closeBrace_iterate]
    have hentryId : entry.id = id :=
      (congrArg Prod.fst hentry).trans (by simp [joinIds, Scan.start])
    simp [Scan.ids, Scan.start, hentryId]
  rw [found_loneText hnewline, bootable_loneMenu]
  intro heq
  obtain ⟨last, hlast, hkey⟩ := List.mem_map.mp (heq ▸ List.mem_singleton_self _)
  have hmem : last.id ∈ [id] := by
    rw [← hids]
    exact List.mem_map_of_mem (List.mem_append_left _ (List.mem_of_mem_filter hlast))
  exact hne ((List.mem_singleton.mp hmem).symm.trans (congrArg Prod.fst hkey))

/-- An entry that ends on its header, or never. -/
theorem found_nil_of_uneven (hnewline : '\n' ∉ title) (hmarker : ¬marker <:+: title)
    (h : ¬EvenBraces title) :
    found (loneText title) = [] := by
  obtain ⟨entry, hentry, hwords⟩ :=
      words_menuentry .start (@Header.quotedAfter_text (loneHeader title) _
    (show '$' ∉ menuentry by decide) hmarker)
  have hline := @Header.count_line (loneHeader title) _ (Or.inl rfl)
  have hcounts : ((loneHeader title).line menuentry).count '{' = title.count '{' + 1 ∧
      ((loneHeader title).line menuentry).count '}' = title.count '}' := hline
  have hne : title.count '{' ≠ title.count '}' := h
  have hbelow : ∀ depth, 0 < depth → Scan.Below { Scan.start with
      current := some entry, currentDepth := 0 } depth :=
    fun depth hdepth => ⟨fun _ => hdepth, nofun⟩
  have hheader : scanLine .start ((loneHeader title).line menuentry) = closeBrace^[title.count '}']
      { Scan.start with
        current := some entry, currentDepth := 0, depth := title.count '{' + 1 } := by
    rw [scanLine_of_words hwords, hcounts.1, hcounts.2]
    simp [Scan.start]
  rw [found_loneText hnewline, List.map_eq_nil_iff, List.filter_eq_nil_iff]
  by_cases hmore : title.count '}' < title.count '{'
  · -- The scan stays above the entry's depth, so that nothing is recorded.
    obtain ⟨left, hleft⟩ := Nat.exists_eq_add_of_lt hmore
    have hcount := closeBrace_iterate (hbelow (left + 2) (Nat.succ_pos _)) (title.count '}')
    rw [hheader, show title.count '{' + 1 = left + 2 + title.count '}' by omega, hcount]
    obtain ⟨current, hset, hsome⟩ := setKernelImage_eq
      { Scan.start with current := some entry, currentDepth := 0, depth := left + 2 } imageLine.text
    rw [hset]
    simp [closeBrace, Scan.start]
  · -- The brace that comes back to depth zero ends the entry, which has no image yet.
    obtain ⟨left, hleft⟩ :=
      Nat.exists_eq_add_of_lt (Nat.lt_of_le_of_ne (Nat.le_of_not_lt hmore) hne)
    have hcount := closeBrace_iterate (hbelow 1 Nat.one_pos) (title.count '{')
    have hended : (closeBrace { Scan.start with
        current := some entry, currentDepth := 0, depth := 1 }).Imageless := by
      refine ⟨rfl, fun last hlast => ?_⟩
      obtain rfl := List.mem_singleton.mp hlast
      exact congrArg Prod.snd hentry
    have himageless : (scanLine .start ((loneHeader title).line menuentry)).Imageless := by
      rw [hheader, show title.count '}' =
        left + 1 + title.count '{' by omega, Nat.add_comm (title.count '{'),
        Function.iterate_add_apply, hcount, Function.iterate_succ_apply]
      exact hended.iterate left
    rw [setKernelImage, himageless.none_current]
    have hlast := himageless.closeBrace
    intro entry hmem
    rw [hlast.none_image entry hmem]
    exact Bool.false_ne_true

end Misled

/-- **The parser finds the bootable entries of every menu under these titles, with their ids and in
order, if and only if the titles have even braces and no marker of an id.** -/
theorem parseGrubCfg_titles (titles : Set (List Char)) :
    (∀ (menu : Menu) (text : List Char), (∀ title ∈ menu.titles, title ∈ titles) →
        strLines text = menu.lines → found text = bootable [] menu) ↔
      ∀ title ∈ titles, '\n' ∉ title → PlainTitle title := by
  constructor
  · intro h title htitle hnewline
    have hfound :=
      h (loneMenu title) (loneText title) (fun found hmem => List.mem_singleton.mp hmem ▸ htitle)
      (strLines_loneText hnewline)
    by_cases hmarker : marker <:+: title
    · exact absurd hfound (found_ne_of_marker hnewline hmarker)
    · refine ⟨?_, hmarker⟩
      by_contra heven
      rw [found_nil_of_uneven hnewline hmarker heven, bootable_loneMenu] at hfound
      contradiction
  · intro h menu text htitles hlines
    refine found_of_plain hlines fun title hmem => h title (htitles title hmem) fun hnewline => ?_
    obtain ⟨line, hline, hin⟩ := quote_infix_line hmem
    have hnone := newline_not_mem_strLines text line (hlines ▸ hline)
    exact hnone (hin.subset (newline_mem_quote.mpr hnewline))

/-- A title with a brace: no kernel can be selected. -/
theorem parseGrubCfg_brace :
    ¬∀ (menu : Menu) (text : List Char), strLines text = menu.lines →
      found text = bootable [] menu := by
  have hnewline : '\n' ∉ "a\x7d".toList := by decide
  intro h
  have hfound := h (loneMenu "a\x7d".toList) (loneText "a\x7d".toList) (strLines_loneText hnewline)
  revert hfound
  decide +kernel

end Stutter.Grub
