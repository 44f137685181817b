import Hipl.Hipfw.RuleFormat

/-!
# Reading the rule file

`read_rule_file` reads the firewall's rule file with `fgets` into a buffer of `MAX_LINE_LENGTH`
bytes, cuts what a read holds at a comment sign or at the newline, skips what is then empty, and
appends every rule `parse_rule` returns to the list of the rule's hook. `fgetsLines` is the
sequence of reads, `ruleText` what `parse_rule` is handed of a read, and `readRuleFile` the three
tables the loop leaves.

A file printed from lines of the rule format (`ruleFile`), each ended by a newline, with no
comment sign, newline or NUL in its texts and short enough for one read, is read back line by
line (`fgetsLines_ruleFile`). Where the checks of `parse_rule` see what the format sees, the
tables then hold, per hook and in the order of the file, the rules the format records for its
lines, and the lines the format refuses are left out (`readRuleFile_ruleFile`).
-/

set_option autoImplicit false
set_option relaxedAutoImplicit false

namespace Hipl.Hipfw

open Hipl.Wire Hipl.Hipd

/-! ### The code -/

/-- `MAX_LINE_LENGTH`: the size of the buffer `read_rule_file` reads a line into. -/
def maxLineLength : Nat := 512

/-- The reads `fgets(line, size, file)` makes of a file until it returns NULL at the end: a read
takes characters until its buffer holds `size - 1` bytes or it has taken a newline. `line` is
what the current read holds, in `used` bytes. A character of several bytes that does not fit is
left whole to the next read. -/
def fgetsLines (size : Nat) : List Char → List Char → Nat → List (List Char)
  | [], [], _ => []
  | [], line, _ => [line]
  | c :: file, line, used =>
    if size - 1 < used + c.utf8Size then
      if c = '\n' then line :: ['\n'] :: fgetsLines size file [] 0
      else line :: fgetsLines size file [c] c.utf8Size
    else if c = '\n' then (line ++ [c]) :: fgetsLines size file [] 0
    else fgetsLines size file (line ++ [c]) (used + c.utf8Size)

/-- What `read_rule_file` hands `parse_rule` of a read: the string up to its terminator, cut at
the first comment sign or newline. -/
def ruleText (line : List Char) : List Char :=
  line.takeWhile fun c ↦ c != '\x00' && c != '#' && c != '\n'

/-- The rule lists `input_rules`, `output_rules` and `forward_rules`. -/
structure RuleTables where
  input : List Rule
  output : List Rule
  forward : List Rule
  deriving DecidableEq, Repr

/-- `append_to_list` on the list of the rule's hook. -/
def RuleTables.append (tables : RuleTables) (rule : Rule) : RuleTables :=
  if rule.hook = nfIp6LocalIn then { tables with input := tables.input ++ [rule] }
  else if rule.hook = nfIp6LocalOut then { tables with output := tables.output ++ [rule] }
  else if rule.hook = nfIp6Forward then { tables with forward := tables.forward ++ [rule] }
  else tables

/-- One read of the loop of `read_rule_file`. -/
def readRuleLine (inetPton6 : String → Option Hit) (parseHi : String → Hit → Option Bytes)
    (tables : RuleTables) (line : List Char) : Except Fault RuleTables :=
  match ruleText line with
  | [] => pure tables
  | text => do
    match ← parseRule inetPton6 parseHi (String.mk text) with
    | some rule => pure (tables.append rule)
    | none => pure tables

/-- `read_rule_file` on the text of the file, `none` where `fopen` fails: the tables it sets. -/
def readRuleFile (inetPton6 : String → Option Hit) (parseHi : String → Hit → Option Bytes)
    (file : Option String) : Except Fault RuleTables :=
  match file with
  | none => pure ⟨[], [], []⟩
  | some file =>
    (fgetsLines maxLineLength file.toList [] 0).foldlM (readRuleLine inetPton6 parseHi) ⟨[], [], []⟩

/-! ### Files of the format -/

/-- A line of the rule format: the hook's name, the options and the verdict. -/
structure RuleEntry where
  hook : String
  options : List RuleOption
  verdict : String
  deriving DecidableEq, Repr

/-- The line of an entry. -/
def RuleEntry.line (entry : RuleEntry) : String :=
  ruleLine entry.hook entry.options entry.verdict

/-- A rule file printed from entries, a line each, ended by a newline. -/
def ruleFile (entries : List RuleEntry) : String :=
  String.mk (entries.flatMap fun entry ↦ entry.line.toList ++ ['\n'])

/-- What the format records for an entry, `none` where it refuses it. -/
def RuleEntry.rule (inetPton6 : String → Option Hit) (parseHi : String → Hit → Option Bytes)
    (entry : RuleEntry) : Option Rule :=
  (hookOfName entry.hook).bind fun hookValue ↦
    formatRule inetPton6 parseHi hookValue entry.options entry.verdict

/-- The tables the format describes for rules: each hook's rules, in their order. -/
def RuleTables.ofRules (rules : List Rule) : RuleTables :=
  ⟨rules.filter (·.hook = nfIp6LocalIn), rules.filter (·.hook = nfIp6LocalOut),
    rules.filter (·.hook = nfIp6Forward)⟩

/-- An entry `read_rule_file` reads as the format describes it: a hook and a verdict of the
format, options whose texts are tokens, checks of `parse_rule` that see what the format sees, no
NUL, comment sign or newline in the line, and a line that fits one read with its newline. -/
structure RuleEntry.Readable (entry : RuleEntry) : Prop where
  hook : (hookOfName entry.hook).isSome
  verdict : entry.verdict = "ACCEPT" ∨ entry.verdict = "DROP"
  tokenizable : ∀ option ∈ entry.options, option.Tokenizable
  order : inIfBeforeOutIf entry.options = false
  repeats : repeatsUnchecked entry.options = false
  size : ∀ option ∈ entry.options, ∀ name, option.interfaceName = some name →
    name.utf8ByteSize ≠ ifNamesize
  text : ∀ c ∈ entry.line.toList, c ≠ '\x00' ∧ c ≠ '#' ∧ c ≠ '\n'
  fits : entry.line.utf8ByteSize + 1 ≤ maxLineLength - 1

/-! ### Reading a file of the format back -/

/-- A read that meets a newline with room left ends behind it. -/
theorem fgetsLines_append_newline {size used : Nat} {line acc : List Char} (rest : List Char)
    (hline : ∀ c ∈ line, c ≠ '\n') (hfit : used + String.utf8Len line + 1 ≤ size - 1) :
    fgetsLines size (line ++ '\n' :: rest) acc used =
      (acc ++ line ++ ['\n']) :: fgetsLines size rest [] 0 := by
  induction line generalizing acc used with
  | nil =>
    have hroom : ¬size - 1 < used + '\n'.utf8Size := by
      simp only [String.utf8Len_nil, Nat.add_zero] at hfit
      exact Nat.not_lt.mpr hfit
    simp [fgetsLines, hroom]
  | cons c line ih =>
    have hc : c ≠ '\n' := hline c (.head _)
    simp only [String.utf8Len_cons] at hfit
    have hroom : ¬size - 1 < used + c.utf8Size := by omega
    rw [List.cons_append, fgetsLines, if_neg hroom, if_neg hc,
      ih (fun c hc ↦ hline c (.tail _ hc)) (by omega)]
    simp

/-- The reads of a file printed from readable entries are its lines with their newlines. -/
theorem fgetsLines_ruleFile {entries : List RuleEntry} (h : ∀ entry ∈ entries, entry.Readable) :
    fgetsLines maxLineLength (ruleFile entries).toList [] 0 =
      entries.map fun entry ↦ entry.line.toList ++ ['\n'] := by
  induction entries with
  | nil => rfl
  | cons entry entries ih =>
    have hr := h entry (.head _)
    have hfit : 0 + String.utf8Len entry.line.toList + 1 ≤ maxLineLength - 1 := by
      simpa using hr.fits
    have hfile : (ruleFile (entry :: entries)).toList =
        entry.line.toList ++ '\n' :: (ruleFile entries).toList := by
      simp [ruleFile]
    rw [hfile, fgetsLines_append_newline _ (fun c hc ↦ (hr.text c hc).2.2) hfit,
      ih fun e he ↦ h e (.tail _ he)]
    simp

/-- What `parse_rule` is handed of the read of a readable line is the line. -/
theorem ruleText_line {entry : RuleEntry} (hr : entry.Readable) :
    ruleText (entry.line.toList ++ ['\n']) = entry.line.toList := by
  unfold ruleText
  rw [List.takeWhile_append_of_pos fun c hc ↦ by simp [hr.text c hc]]
  simp

/-- The rule the format records for an entry has the entry's hook. -/
theorem foldlM_record_hook {inetPton6 : String → Option Hit}
    {parseHi : String → Hit → Option Bytes} :
    ∀ {options : List RuleOption} {rule rule' : Rule},
      options.foldlM (RuleOption.record inetPton6 parseHi) rule = some rule' →
        rule'.hook = rule.hook
  | [], _, _, h => by cases h; rfl
  | option :: options, rule, rule', h => by
    obtain ⟨rule₁, h₁, h⟩ := Option.bind_eq_some.mp h
    exact (foldlM_record_hook h).trans (RuleOption.record_frame h₁).2.1

/-- A rule the format records lies in one of the three tables. -/
theorem RuleEntry.rule_hook {inetPton6 : String → Option Hit}
    {parseHi : String → Hit → Option Bytes} {entry : RuleEntry} {rule : Rule}
    (h : entry.rule inetPton6 parseHi = some rule) :
    rule.hook = nfIp6LocalIn ∨ rule.hook = nfIp6LocalOut ∨ rule.hook = nfIp6Forward := by
  obtain ⟨hookValue, hhook, h⟩ := Option.bind_eq_some.mp h
  obtain ⟨rule₁, h₁, rfl⟩ := Option.map_eq_some'.mp h
  have hv : rule₁.hook = hookValue := foldlM_record_hook h₁
  unfold hookOfName at hhook
  split_ifs at hhook <;> cases hhook <;> simp [hv]

/-- A readable line adds to the tables the rule the format records for it. -/
theorem readRuleLine_line (inetPton6 : String → Option Hit)
    (parseHi : String → Hit → Option Bytes) (tables : RuleTables) {entry : RuleEntry}
    (hr : entry.Readable) :
    readRuleLine inetPton6 parseHi tables (entry.line.toList ++ ['\n']) =
      .ok ((entry.rule inetPton6 parseHi).elim tables tables.append) := by
  obtain ⟨hookValue, hhook⟩ := Option.isSome_iff_exists.mp hr.hook
  have hparse : parseRule inetPton6 parseHi entry.line =
      .ok (formatRule inetPton6 parseHi hookValue entry.options entry.verdict) :=
    parseRule_ruleLine_eq_formatRule hhook hr.verdict hr.tokenizable hr.order hr.repeats hr.size
  have hne : entry.line.toList ≠ [] := fun he ↦ by
    have htokens := strtokBlank_ruleLine_of_hookOfName hhook hr.verdict hr.tokenizable
    rw [show ruleLine entry.hook entry.options entry.verdict = "" from
      (show entry.line = String.mk entry.line.toList from rfl).trans (by rw [he])] at htokens
    cases htokens
  obtain ⟨c, cs, hcs⟩ := List.exists_cons_of_ne_nil hne
  unfold readRuleLine
  rw [ruleText_line hr, hcs]
  dsimp only
  rw [← hcs, show String.mk entry.line.toList = entry.line from rfl, hparse, ok_bind]
  unfold RuleEntry.rule
  rw [hhook, Option.some_bind]
  cases formatRule inetPton6 parseHi hookValue entry.options entry.verdict <;> rfl

/-- The loop over the lines of readable entries appends, in their order, the rules the format
records for them. -/
theorem foldlM_readRuleLine (inetPton6 : String → Option Hit)
    (parseHi : String → Hit → Option Bytes) {entries : List RuleEntry}
    (h : ∀ entry ∈ entries, entry.Readable) (tables : RuleTables) :
    (entries.map fun entry ↦ entry.line.toList ++ ['\n']).foldlM
        (readRuleLine inetPton6 parseHi) tables =
      .ok ((entries.filterMap (RuleEntry.rule inetPton6 parseHi)).foldl RuleTables.append tables) := by
  induction entries generalizing tables with
  | nil => rfl
  | cons entry entries ih =>
    rw [List.map_cons, List.foldlM_cons, readRuleLine_line _ _ _ (h entry (.head _)), ok_bind,
      ih (fun e he ↦ h e (.tail _ he))]
    cases hrule : entry.rule inetPton6 parseHi <;> simp [List.filterMap_cons, hrule]

/-- Appending rules of the three hooks one after the other fills each table with its hook's
rules, in their order. -/
theorem foldl_append_ofRules {rules : List Rule}
    (h : ∀ rule ∈ rules,
      rule.hook = nfIp6LocalIn ∨ rule.hook = nfIp6LocalOut ∨ rule.hook = nfIp6Forward)
    (tables : RuleTables) :
    rules.foldl RuleTables.append tables =
      ⟨tables.input ++ (RuleTables.ofRules rules).input,
        tables.output ++ (RuleTables.ofRules rules).output,
        tables.forward ++ (RuleTables.ofRules rules).forward⟩ := by
  induction rules generalizing tables with
  | nil => simp [RuleTables.ofRules]
  | cons rule rules ih =>
    rw [List.foldl_cons, ih fun r hr ↦ h r (.tail _ hr)]
    rcases h rule (.head _) with hh | hh | hh <;>
      simp [RuleTables.append, RuleTables.ofRules, List.filter_cons, hh, nfIp6LocalIn,
        nfIp6LocalOut, nfIp6Forward]

/-- A rule file printed from readable entries is read into the tables the format describes:
each hook's list holds the rules the format records for the entries of that hook, in the order
of the file, and the entries the format refuses are left out. -/
theorem readRuleFile_ruleFile (inetPton6 : String → Option Hit)
    (parseHi : String → Hit → Option Bytes) {entries : List RuleEntry}
    (h : ∀ entry ∈ entries, entry.Readable) :
    readRuleFile inetPton6 parseHi (some (ruleFile entries)) =
      .ok (RuleTables.ofRules (entries.filterMap (RuleEntry.rule inetPton6 parseHi))) := by
  have hhooks : ∀ rule ∈ entries.filterMap (RuleEntry.rule inetPton6 parseHi),
      rule.hook = nfIp6LocalIn ∨ rule.hook = nfIp6LocalOut ∨ rule.hook = nfIp6Forward := by
    intro rule hrule
    obtain ⟨entry, -, hentry⟩ := List.mem_filterMap.mp hrule
    exact RuleEntry.rule_hook hentry
  unfold readRuleFile
  dsimp only
  rw [fgetsLines_ruleFile h, foldlM_readRuleLine inetPton6 parseHi h,
    foldl_append_ofRules hhooks]
  rfl

/-- A file of an INPUT line and of an OUTPUT line with `-i`, which the format refuses in
OUTPUT: the INPUT rule goes to the input table, and the OUTPUT line is left out. -/
theorem readRuleFile_inputOutput :
    (∀ entry ∈ [⟨"INPUT", [.state false "NEW", .verifyResponder], "ACCEPT"⟩,
        ⟨"OUTPUT", [.inIf false "eth0"], "DROP"⟩], RuleEntry.Readable entry) ∧
      readRuleFile (fun _ ↦ none) (fun _ _ ↦ none)
          (some (ruleFile [⟨"INPUT", [.state false "NEW", .verifyResponder], "ACCEPT"⟩,
            ⟨"OUTPUT", [.inIf false "eth0"], "DROP"⟩])) =
        .ok ⟨[⟨none, none, none, none, some ⟨⟨connNew, true⟩, true, false, false⟩, none, none,
          none, nfIp6LocalIn, 1⟩], [], []⟩ := by
  have hr : ∀ entry ∈ [⟨"INPUT", [.state false "NEW", .verifyResponder], "ACCEPT"⟩,
      ⟨"OUTPUT", [.inIf false "eth0"], "DROP"⟩], RuleEntry.Readable entry := by
    intro entry hentry
    simp only [List.mem_cons, List.mem_singleton, List.not_mem_nil, or_false] at hentry
    rcases hentry with rfl | rfl <;>
      exact ⟨by decide, by decide, by decide, by decide, by decide, by decide, by decide,
        by decide⟩
  exact ⟨hr, (readRuleFile_ruleFile _ _ hr).trans rfl⟩

end Hipl.Hipfw
