import StutterProof.ActiveConfig
import StutterProof.LineSplit

/-! # The import of Ananicy rules

A rule file holds JSON objects, with comments between them.  `extractJsonObjects` goes through it
character by character and keeps the depth of the braces, and whether it is in a string and behind a
backslash.  A comment is only seen at the start of a line outside of all objects; the comments since
the last blank line belong to the next object.

The JSON parser and what is made of one object are parameters. -/
namespace Stutter.Ananicy

open ActiveConfig (TaskClass containsIgnoreAsciiCase trim)
open LineSplit (strLines)

/-! ## Extraction -/

/-- An object with the comments before it. -/
structure ParsedRuleObject (Value : Type) where
  value : Value
  precedingComments : List (List Char)
  deriving DecidableEq

inductive ExtractError where
  | json (text : List Char)
  | unterminated
  deriving DecidableEq

/-- The scanner's state. -/
structure Extraction (Value : Type) where
  objects : List (ParsedRuleObject Value)
  buffer : List Char
  depth : Nat
  inString : Bool
  escaped : Bool
  pendingComments : List (List Char)
  objectComments : List (List Char)

def Extraction.start {Value : Type} : Extraction Value := ⟨[], [], 0, false, false, [], []⟩

/-- `comment_from_trimmed_line`. -/
def commentFromTrimmedLine : List Char → Option (List Char)
  | '#' :: comment => some (trim comment)
  | '/' :: '/' :: comment => some (trim comment)
  | _ => none

section Extract
variable {Value : Type} (fromStr : List Char → Option Value)

/-- The object in the buffer is complete. -/
def closeObject (state : Extraction Value) : Except ExtractError (Extraction Value) :=
  match fromStr state.buffer with
  | some value => .ok { state with
      objects := state.objects ++ [⟨value, state.objectComments⟩]
      buffer := []
      depth := 0
      objectComments := [] }
  | none => .error (.json state.buffer)

/-- A character in an object, once it is in the buffer. -/
def scanInside (state : Extraction Value) (c : Char) : Except ExtractError (Extraction Value) :=
  if state.inString then
    if state.escaped then .ok { state with escaped := false }
    else if c = '\\' then .ok { state with escaped := true }
    else if c = '"' then .ok { state with inString := false }
    else .ok state
  else if c = '"' then .ok { state with inString := true }
  else if c = '{' then .ok { state with depth := state.depth + 1 }
  else if c = '}' then
    if state.depth - 1 = 0 then closeObject fromStr state
    else .ok { state with depth := state.depth - 1 }
  else .ok state

/-- One character, and whether an object has started on its line. -/
def scanChar (scan : Extraction Value × Bool) (c : Char) :
    Except ExtractError (Extraction Value × Bool) :=
  let (state, sawObjectStart) := scan
  if state.depth = 0 then
    if c = '{' then
      .ok ({ state with
        buffer := ['{']
        depth := 1
        objectComments := state.pendingComments
        pendingComments := [] }, true)
    else .ok (state, sawObjectStart)
  else (scanInside fromStr { state with buffer := state.buffer ++ [c] } c).map (·, sawObjectStart)

/-- The characters of a line that is no comment. -/
def scanContent (state : Extraction Value) (line : List Char) :
    Except ExtractError (Extraction Value) :=
  do
  let (state, sawObjectStart) ← line.foldlM (scanChar fromStr) (state, false)
  if 0 < state.depth then return { state with buffer := state.buffer ++ ['\n'] }
  else if !sawObjectStart && !(line.dropWhile isTrimmed).isEmpty then
    return { state with pendingComments := [] }
  else return state

/-- The scan of one line. -/
def scanLine (state : Extraction Value) (line : List Char) :
    Except ExtractError (Extraction Value) :=
  let trimmed := line.dropWhile isTrimmed
  if 0 < state.depth then scanContent fromStr state line
  else if trimmed.isEmpty then .ok { state with pendingComments := [] }
  else
    match commentFromTrimmedLine trimmed with
    | some comment =>
      if comment.isEmpty then .ok state
      else .ok { state with pendingComments := state.pendingComments ++ [comment] }
    | none => scanContent fromStr state line

def extractJsonObjects (content : List Char) :
    Except ExtractError (List (ParsedRuleObject Value)) :=
  do
  let state ← (strLines content).foldlM (scanLine fromStr) .start
  if state.depth = 0 then return state.objects else throw .unterminated

end Extract

/-! ## Import -/

/-- A rule, as far as the import counts it. -/
structure CommunityRule where
  normalizedName : String
  stutterClass : String
  sourcePath : String
  context : List String
  ambiguous : Bool

/-- `rule_requires_game_context_at_import`. -/
def ruleRequiresGameContext (rule : CommunityRule) : Bool :=
  rule.ambiguous || rule.context.any (· = "wine_or_proton_or_steam") ||
    containsIgnoreAsciiCase rule.sourcePath "wine_proton"

/-- `exact_only_non_game_rule_at_import`. -/
def exactOnlyNonGameRule (taskClass : TaskClass) (rule : CommunityRule) : Bool :=
  !rule.ambiguous && taskClass ∉ [.unknown, .game, .gameScope, .wineServer, .steamRuntime]

/-- What becomes of an object. -/
inductive RuleImportDecision where
  | importRule (rule : CommunityRule)
  | skipNoName
  | skipBadName
  | skipUnknownClass

/-- The counts of an import. -/
structure ImportReport where
  scannedFiles : Nat
  parsedObjects : Nat
  importedRules : Nat
  skippedNoName : Nat
  skippedBadName : Nat
  skippedUnknownClass : Nat
  duplicateRules : Nat
  ambiguousRules : Nat
  contextRequiredGameRules : Nat
  exactOnlyNonGameRules : Nat
  classes : String → Nat

/-- The rules and their keys so far, and the report. -/
structure Import where
  rules : List CommunityRule
  seen : List (String × String)
  report : ImportReport

def Import.start (scannedFiles : Nat) : Import :=
  ⟨[], [], ⟨scannedFiles, 0, 0, 0, 0, 0, 0, 0, 0, 0, fun _ => 0⟩⟩

/-- A rule that was decided to be imported. -/
def importRule (state : Import) (rule : CommunityRule) : Import :=
  let key := (rule.normalizedName, rule.sourcePath)
  let report := state.report
  if key ∈ state.seen then { state with
    report := { report with duplicateRules := report.duplicateRules + 1 } }
  else
    let taskClass := (TaskClass.fromStrOpt rule.stutterClass).getD .unknown
    let contextRequired := taskClass = .game && ruleRequiresGameContext rule
    { rules := state.rules ++ [rule]
      seen := key :: state.seen
      report := { report with
        ambiguousRules := report.ambiguousRules + rule.ambiguous.toNat
        contextRequiredGameRules := report.contextRequiredGameRules + contextRequired.toNat
        exactOnlyNonGameRules :=
          report.exactOnlyNonGameRules + (exactOnlyNonGameRule taskClass rule).toNat
        classes := Function.update report.classes rule.stutterClass
          (report.classes rule.stutterClass + 1) } }

/-- One object. -/
def importObject (state : Import) (decision : RuleImportDecision) : Import :=
  let report := { state.report with parsedObjects := state.report.parsedObjects + 1 }
  match decision with
  | .importRule rule => importRule { state with report } rule
  | .skipNoName =>
    { state with report := { report with skippedNoName := report.skippedNoName + 1 } }
  | .skipBadName =>
    { state with report := { report with skippedBadName := report.skippedBadName + 1 } }
  | .skipUnknownClass =>
    { state with report := { report with skippedUnknownClass := report.skippedUnknownClass + 1 } }

inductive ImportError where
  | notADirectory
  | unreadable (path : String)
  | unparsable (path : String) (error : ExtractError)

section Files
variable {Value : Type} (fromStr : List Char → Option Value)
  (communityRuleFromJsonObject : ParsedRuleObject Value → String → RuleImportDecision)

def importFile (state : Import) (path : String) (content : Option (List Char)) :
    Except ImportError Import :=
  match content with
  | none => .error (.unreadable path)
  | some content =>
    match extractJsonObjects fromStr content with
    | .error error => .error (.unparsable path error)
    | .ok objects => .ok (objects.foldl (fun state object =>
        importObject state (communityRuleFromJsonObject object path)) state)

/-- `import_ananicy_rules`, of the rule files in the order of their paths. -/
def importAnanicyRules (isDir : Bool) (files : List (String × Option (List Char))) :
    Except ImportError (List CommunityRule × ImportReport) := do
  if !isDir then throw .notADirectory
  let state ← files.foldlM (fun state file =>
    importFile fromStr communityRuleFromJsonObject state file.1 file.2) (.start files.length)
  return (state.rules, { state.report with importedRules := state.rules.length })

end Files

end Stutter.Ananicy
