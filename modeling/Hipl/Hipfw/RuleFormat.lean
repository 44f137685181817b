import Hipl.Hipfw.RuleManagement

/-!
# The rule format, and what `parse_rule` makes of it

A line of the firewall's rule file is a hook, options each with its value, and a verdict.
`RuleOption` is an option as the format describes it and `RuleOption.record` what it adds to the
rule, `none` where the format forbids it: an option given a second time, `--hi` without a matched
source HIT, a state flag without `-state`, `-i` in OUTPUT, `-o` in INPUT, `-cert` outside
FORWARD, or a value that does not parse. This side is the format's description, not a
translation of the code: `-o` is refused once `-o` has been given.

`ruleLine` writes a line, and `strtok` reads its tokens back (`strtokBlank_ruleLine`). On every
line of the format whose value texts are tokens, `parse_rule` returns the rule the format
records, with the verdict, unless an `-i` comes before an `-o`, where the check of `-o` reads the
incoming interface (`parseRule_ruleLine`). Where the format refuses an option, `parse_rule`
returns NULL (`parseRule_ruleLine_none`), unless its checks read other fields than the format's:
a state flag or `-o` given twice passes them, and an interface name of 16 bytes overruns its
buffer. `Rule.Awaits` is what the rule so far holds of the options still to come for those
checks; both directions go option by option over the tokens, one step lemma per option.
-/

set_option autoImplicit false
set_option relaxedAutoImplicit false

namespace Hipl.Hipfw

open Hipl.Wire Hipl.Hipd

/-- An option of a rule line with its value, as the rule format describes it. -/
inductive RuleOption
  | srcHit (negated : Bool) (hit : String)
  | dstHit (negated : Bool) (hit : String)
  | srcHi (file : String)
  | type (negated : Bool) (name : String)
  | state (negated : Bool) (name : String)
  | verifyResponder
  | acceptMobile
  | decryptContents
  | inIf (negated : Bool) (name : String)
  | outIf (negated : Bool) (name : String)
  | cert (value : String)
  deriving DecidableEq, Repr

/-- A value, behind `!` when it is negated. -/
def negatedValue : Bool → String → List String
  | true, value => [negateStr, value]
  | false, value => [value]

/-- The tokens of an option. -/
def RuleOption.tokens : RuleOption → List String
  | .srcHit negated hit => "-src_hit" :: negatedValue negated hit
  | .dstHit negated hit => "-dst_hit" :: negatedValue negated hit
  | .srcHi file => ["--hi", file]
  | .type negated name => "-type" :: negatedValue negated name
  | .state negated name => "-state" :: negatedValue negated name
  | .verifyResponder => ["--verify_responder"]
  | .acceptMobile => ["--accept_mobile"]
  | .decryptContents => ["--decrypt_contents"]
  | .inIf negated name => "-i" :: negatedValue negated name
  | .outIf negated name => "-o" :: negatedValue negated name
  | .cert value => ["-cert", value]

/-- A rule line: the hook, the options and the verdict, one blank between two tokens. -/
def ruleLine (hook : String) (options : List RuleOption) (verdict : String) : String :=
  String.mk ([' '].intercalate ((hook :: options.flatMap RuleOption.tokens ++ [verdict]).map
    String.toList))

/-- What an option adds to the rule so far, as the format says; `none` where the format forbids
the option. The rule stores a matched option with boolean 1 and a negated one with 0, and the
certificate with 0; an interface name fits `IF_NAMESIZE` bytes with its terminator. -/
def RuleOption.record (inetPton6 : String → Option Hit) (parseHi : String → Hit → Option Bytes)
    (rule : Rule) : RuleOption → Option Rule
  | .srcHit negated hit =>
    if rule.srcHit.isSome then none
    else (inetPton6 hit).map fun hit ↦ { rule with srcHit := some ⟨hit, !negated⟩ }
  | .dstHit negated hit =>
    if rule.dstHit.isSome then none
    else (inetPton6 hit).map fun hit ↦ { rule with dstHit := some ⟨hit, !negated⟩ }
  | .srcHi file =>
    match rule.srcHit with
    | some source =>
      if source.boolean && rule.srcHi.isNone then
        (parseHi file source.value).map fun hi ↦ { rule with srcHi := some hi }
      else none
    | none => none
  | .type negated name =>
    if rule.type.isSome then none
    else (hipTypeOfName name).map fun value ↦ { rule with type := some ⟨value, !negated⟩ }
  | .state negated name =>
    if rule.state.isSome then none
    else (connStateOfName name).map fun value ↦
      { rule with state := some ⟨⟨value, !negated⟩, false, false, false⟩ }
  | .verifyResponder =>
    match rule.state with
    | some current =>
      if current.verifyResponder then none
      else some { rule with state := some { current with verifyResponder := true } }
    | none => none
  | .acceptMobile =>
    match rule.state with
    | some current =>
      if current.acceptMobile then none
      else some { rule with state := some { current with acceptMobile := true } }
    | none => none
  | .decryptContents =>
    match rule.state with
    | some current =>
      if current.decryptContents then none
      else some { rule with state := some { current with decryptContents := true } }
    | none => none
  | .inIf negated name =>
    if rule.inIf.isSome || rule.hook = nfIp6LocalOut || ifNamesize ≤ name.utf8ByteSize then none
    else some { rule with inIf := some ⟨name, !negated⟩ }
  | .outIf negated name =>
    if rule.outIf.isSome || rule.hook = nfIp6LocalIn || ifNamesize ≤ name.utf8ByteSize then none
    else some { rule with outIf := some ⟨name, !negated⟩ }
  | .cert value =>
    if rule.cert.isSome || rule.hook ≠ nfIp6Forward then none
    else some { rule with cert := some ⟨value, false⟩ }

/-- The value an option may negate with `!`. -/
def RuleOption.negatableValue : RuleOption → Option String
  | .srcHit _ value | .dstHit _ value | .type _ value | .state _ value | .inIf _ value
  | .outIf _ value => some value
  | _ => none

/-- The texts of an option are tokens `strtok` returns as they are: nonempty, without a blank,
and a negatable value other than `!`. -/
def RuleOption.Tokenizable (option : RuleOption) : Prop :=
  (∀ token ∈ option.tokens, token ≠ "" ∧ ' ' ∉ token.toList) ∧
    option.negatableValue ≠ some negateStr

instance (option : RuleOption) : Decidable option.Tokenizable :=
  inferInstanceAs (Decidable (_ ∧ _))

/-- Whether an option is `-i`. -/
def RuleOption.isInIf : RuleOption → Bool
  | .inIf _ _ => true
  | _ => false

/-- Whether an option is `-o`. -/
def RuleOption.isOutIf : RuleOption → Bool
  | .outIf _ _ => true
  | _ => false

/-- Whether an `-i` comes before an `-o`. -/
def inIfBeforeOutIf : List RuleOption → Bool
  | [] => false
  | option :: options =>
    (option.isInIf && options.any RuleOption.isOutIf) || inIfBeforeOutIf options

/-- The interface `-i` or `-o` names. -/
def RuleOption.interfaceName : RuleOption → Option String
  | .inIf _ name | .outIf _ name => some name
  | _ => none

/-- Whether a state option has the flag an option sets. -/
def StateOption.isSet (state : StateOption) : RuleOption → Bool
  | .verifyResponder => state.verifyResponder
  | .acceptMobile => state.acceptMobile
  | .decryptContents => state.decryptContents
  | _ => false

/-- Whether an option comes again among the options after it where `parse_rule` does not look
for it: a state flag, or `-o`, whose check reads the incoming interface. -/
def RuleOption.repeatsIn (option : RuleOption) (options : List RuleOption) : Bool :=
  match option with
  | .verifyResponder | .acceptMobile | .decryptContents => options.contains option
  | .outIf _ _ => options.any RuleOption.isOutIf
  | _ => false

/-- Whether a state flag or `-o` comes twice. -/
def repeatsUnchecked : List RuleOption → Bool
  | [] => false
  | option :: options => option.repeatsIn options || repeatsUnchecked options

/-- What a rule holds of the options still to come, for the fields `parse_rule` does not check
as the format does: both interfaces unset while an `-o` is to come, and no flag to come that is
set already. -/
structure Rule.Awaits (rule : Rule) (options : List RuleOption) : Prop where
  inIf : options.any RuleOption.isOutIf = true → rule.inIf = none
  outIf : options.any RuleOption.isOutIf = true → rule.outIf = none
  flags : ∀ state, rule.state = some state → ∀ option ∈ options, state.isSet option = false

theorem allocEmptyRule_awaits (hook : Int) (options : List RuleOption) :
    Rule.Awaits { allocEmptyRule with hook } options :=
  ⟨fun _ ↦ rfl, fun _ ↦ rfl, fun _ h ↦ nomatch h⟩

theorem StateOption.repeatsIn_of_isSet {state : StateOption} {option : RuleOption}
    {options : List RuleOption} (hset : state.isSet option = true) (hmem : option ∈ options) :
    option.repeatsIn options = true := by
  cases option <;> simp_all [StateOption.isSet, RuleOption.repeatsIn]

theorem RuleOption.repeatsIn_of_isOutIf {option : RuleOption} {options : List RuleOption}
    (h : option.isOutIf = true) : option.repeatsIn options = options.any RuleOption.isOutIf := by
  cases option <;> first | rfl | cases h

section Record

variable {inetPton6 : String → Option Hit} {parseHi : String → Hit → Option Bytes}
  {rule rule' : Rule} {option : RuleOption}

/-- An option leaves the verdict and the hook as they were, the incoming interface unless it is
`-i`, and the outgoing one unless it is `-o`. -/
theorem RuleOption.record_frame (h : option.record inetPton6 parseHi rule = some rule') :
    rule'.accept = rule.accept ∧ rule'.hook = rule.hook ∧
      (option.isInIf = false → rule'.inIf = rule.inIf) ∧
      (option.isOutIf = false → rule'.outIf = rule.outIf) := by
  cases option <;> simp only [RuleOption.record] at h <;> split at h <;> (try split at h) <;>
    simp only [Option.map_eq_some', Option.some.injEq, reduceCtorEq, false_and, exists_false] at h <;>
    (first | subst h | obtain ⟨_, -, rfl⟩ := h) <;> simp [RuleOption.isInIf, RuleOption.isOutIf]

/-- A flag set after an option, other than the one the option sets, was set before it. -/
theorem RuleOption.record_isSet (h : option.record inetPton6 parseHi rule = some rule')
    {state' : StateOption} (hs : rule'.state = some state') {other : RuleOption}
    (hother : other ≠ option) (hset : state'.isSet other = true) :
    ∃ state, rule.state = some state ∧ state.isSet other = true := by
  cases option <;> simp only [RuleOption.record] at h <;> split at h <;> (try split at h) <;>
    simp only [Option.map_eq_some', Option.some.injEq, reduceCtorEq, false_and, exists_false] at h <;>
    (first | subst h | obtain ⟨_, -, rfl⟩ := h) <;>
    first
    | exact ⟨_, hs, hset⟩
    | (simp only [Option.some.injEq] at hs; subst hs; cases other <;> simp_all [StateOption.isSet])

/-- The options after an option the format records are awaited by the rule it makes, when no
flag or `-o` comes twice and no `-i` comes before an `-o`. -/
theorem Rule.Awaits.record {options : List RuleOption} (hw : rule.Awaits (option :: options))
    (h : option.record inetPton6 parseHi rule = some rule')
    (hrep : option.repeatsIn options = false)
    (horder : (option.isInIf && options.any RuleOption.isOutIf) = false) :
    rule'.Awaits options := by
  obtain ⟨-, -, hin, hout⟩ := RuleOption.record_frame h
  have hany : options.any RuleOption.isOutIf = true →
      (option :: options).any RuleOption.isOutIf = true := fun h ↦ by simp [h]
  refine ⟨fun ho ↦ ?_, fun ho ↦ ?_, fun state' hs other hmem ↦ ?_⟩
  · cases hi : option.isInIf
    · rw [hin hi]
      exact hw.inIf (hany ho)
    · simp [hi, ho] at horder
  · cases hi : option.isOutIf
    · rw [hout hi]
      exact hw.outIf (hany ho)
    · rw [RuleOption.repeatsIn_of_isOutIf hi] at hrep
      simp [hrep] at ho
  · by_contra hset
    rw [Bool.not_eq_false] at hset
    by_cases hother : other = option
    · subst hother
      exact absurd (StateOption.repeatsIn_of_isSet hset hmem) (by simp [hrep])
    · obtain ⟨state, hs₀, hset₀⟩ := RuleOption.record_isSet h hs hother hset
      simp [hw.flags state hs₀ other (.tail _ hmem)] at hset₀

end Record

/-! ### Reading a line back -/

/-- `strtok` returns the tokens of a line of nonempty tokens without a blank, one blank between
two of them. -/
theorem strtokBlank_intercalate {tokens : List String} (hne : tokens ≠ [])
    (htokens : ∀ token ∈ tokens, token ≠ "" ∧ ' ' ∉ token.toList) :
    strtokBlank (String.mk ([' '].intercalate (tokens.map String.toList))) = tokens := by
  have hsplit : (String.mk ([' '].intercalate (tokens.map String.toList))).toList.splitOn ' ' =
      tokens.map String.toList :=
    List.splitOn_intercalate _ ' ' (by simpa using fun t ht ↦ (htokens t ht).2) (by simpa using hne)
  have hfilter : (tokens.map String.toList).filter (· ≠ []) = tokens.map String.toList := by
    refine List.filter_eq_self.mpr fun l hl ↦ ?_
    obtain ⟨t, ht, rfl⟩ := List.mem_map.mp hl
    simpa [String.ext_iff] using (htokens t ht).1
  unfold strtokBlank
  rw [hsplit, hfilter, List.map_map]
  exact List.map_id' tokens

/-- `strtok` reads the tokens of a rule line back. -/
theorem strtokBlank_ruleLine {hook verdict : String} {options : List RuleOption}
    (htokens : ∀ token ∈ hook :: options.flatMap RuleOption.tokens ++ [verdict],
      token ≠ "" ∧ ' ' ∉ token.toList) :
    strtokBlank (ruleLine hook options verdict) =
      hook :: options.flatMap RuleOption.tokens ++ [verdict] :=
  strtokBlank_intercalate (List.cons_ne_nil _ _) htokens

/-! ### One option at a time -/

section Loop

variable {inetPton6 : String → Option Hit} {parseHi : String → Hit → Option Bytes}

theorem negateToken_of_ne {token : String} (next : Option String) (h : token ≠ negateStr) :
    negateToken token next = (true, some token, false) :=
  if_neg h

theorem negateToken_negateStr (next : Option String) :
    negateToken negateStr next = (false, next, true) :=
  if_pos rfl

/-- A flag sets its field and the loop goes on. -/
theorem parseRuleLoop_flag {rule rule' : Rule} {token : String} {rest : List String}
    (h : parseOption rule token = .flag rule') :
    parseRuleLoop inetPton6 parseHi false .noOption rule (token :: rest) =
      parseRuleLoop inetPton6 parseHi false .noOption rule' rest := by
  rw [parseRuleLoop, h]

/-- A value that parses goes into the rule, and the loop goes on behind the tokens the parser
took. -/
theorem parseRuleLoop_value {found : OptionFound} {rule rule' : Rule} {token : String}
    {rest : List String} {consumed : Bool} (hfound : found ≠ .noOption)
    (h : parseValue inetPton6 parseHi found rule token rest.head? = .ok (some rule', consumed)) :
    parseRuleLoop inetPton6 parseHi false found rule (token :: rest) =
      parseRuleLoop inetPton6 parseHi consumed .noOption rule' rest := by
  cases found
  · exact absurd rfl hfound
  all_goals
    rw [parseRuleLoop, h]
    · rfl
    · exact hfound

/-- A negatable value, behind `!` or not, goes to its parser with the option's boolean, and the
loop goes on behind the value. -/
theorem parseRuleLoop_negatedValue {found : OptionFound} {rule rule' : Rule} {negated : Bool}
    {value : String} (tail : List String) (hfound : found ≠ .noOption) (hv : value ≠ negateStr)
    (h : ∀ token next, negateToken token next = (!negated, some value, negated) →
      parseValue inetPton6 parseHi found rule token next = .ok (some rule', negated)) :
    parseRuleLoop inetPton6 parseHi false found rule (negatedValue negated value ++ tail) =
      parseRuleLoop inetPton6 parseHi false .noOption rule' tail := by
  cases negated
  · exact parseRuleLoop_value hfound (h value tail.head? (negateToken_of_ne _ hv))
  · exact (parseRuleLoop_value hfound
      (h negateStr (value :: tail).head? (negateToken_negateStr _))).trans rfl

/-- An option whose check fails ends the loop with NULL. -/
theorem parseRuleLoop_reject {rule : Rule} {token : String} {rest : List String}
    (h : parseOption rule token = .reject) :
    parseRuleLoop inetPton6 parseHi false .noOption rule (token :: rest) = .ok none := by
  rw [parseRuleLoop, h]
  rfl

/-- A value that does not parse ends the loop with NULL. -/
theorem parseRuleLoop_value_none {found : OptionFound} {rule : Rule} {token : String}
    {rest : List String} {consumed : Bool} (hfound : found ≠ .noOption)
    (h : parseValue inetPton6 parseHi found rule token rest.head? = .ok (none, consumed)) :
    parseRuleLoop inetPton6 parseHi false found rule (token :: rest) = .ok none := by
  cases found
  · exact absurd rfl hfound
  all_goals
    rw [parseRuleLoop, h]
    · rfl
    · exact hfound

/-- A negatable value, behind `!` or not, that its parser refuses ends the loop with NULL. -/
theorem parseRuleLoop_negatedValue_none {found : OptionFound} {rule : Rule} {negated : Bool}
    {value : String} (tail : List String) (hfound : found ≠ .noOption) (hv : value ≠ negateStr)
    (h : ∀ token next, negateToken token next = (!negated, some value, negated) →
      parseValue inetPton6 parseHi found rule token next = .ok (none, negated)) :
    parseRuleLoop inetPton6 parseHi false found rule (negatedValue negated value ++ tail) =
      .ok none := by
  cases negated
  · exact parseRuleLoop_value_none hfound (h value tail.head? (negateToken_of_ne _ hv))
  · exact parseRuleLoop_value_none hfound
      (h negateStr (value :: tail).head? (negateToken_negateStr _))

/-- On the tokens of an option the format records, the loop of `parse_rule` records the option
and goes on behind its value. The check of `-o` reads the incoming interface, which has to be
unset. -/
theorem parseRuleLoop_option {rule rule' : Rule} {option : RuleOption} (tail : List String)
    (ht : option.Tokenizable) (hout : option.isOutIf = true → rule.inIf = none)
    (h : option.record inetPton6 parseHi rule = some rule') :
    parseRuleLoop inetPton6 parseHi false .noOption rule (option.tokens ++ tail) =
      parseRuleLoop inetPton6 parseHi false .noOption rule' tail := by
  cases option with
  | srcHit negated hit | dstHit negated hit | type negated hit | state negated hit =>
    have hv : hit ≠ negateStr := fun he ↦ ht.2 (congrArg some he)
    simp only [RuleOption.record] at h
    split_ifs at h with hs
    obtain ⟨x, hx, rfl⟩ := Option.map_eq_some'.mp h
    rw [RuleOption.tokens, List.cons_append, parseRuleLoop]
    simp only [parseOption, ruleTokenOfName, hs]
    refine parseRuleLoop_negatedValue tail (by decide) hv fun token next hneg ↦ ?_
    simp [parseValue, parseHit, parseType, parseState, parseNegatable, hneg, hx]
  | inIf negated name | outIf negated name =>
    have hv : name ≠ negateStr := fun he ↦ ht.2 (congrArg some he)
    simp only [RuleOption.record] at h
    split_ifs at h with hs
    cases h
    simp only [Bool.or_eq_true, decide_eq_true_eq, not_or, not_le] at hs
    have hin : RuleOption.isOutIf _ = true → rule.inIf = none := hout
    simp only [RuleOption.isOutIf, forall_const] at hin
    rw [RuleOption.tokens, List.cons_append, parseRuleLoop]
    simp only [parseOption, ruleTokenOfName, hs, hin]
    refine parseRuleLoop_negatedValue tail (by decide) hv fun token next hneg ↦ ?_
    have hfit : ¬ifNamesize < name.utf8ByteSize + 1 := by omega
    simp [parseValue, parseIf, hneg, hfit, hs.2.le.not_lt, hin]
  | srcHi file =>
    simp only [RuleOption.record] at h
    split at h
    · split_ifs at h with hs
      obtain ⟨x, hx, rfl⟩ := Option.map_eq_some'.mp h
      simp only [Bool.and_eq_true, Option.isNone_iff_eq_none] at hs
      rw [RuleOption.tokens, List.cons_append, parseRuleLoop]
      simp only [parseOption, ruleTokenOfName, *]
      exact parseRuleLoop_value (by decide) (by simp [parseValue, *])
    · cases h
  | verifyResponder | acceptMobile | decryptContents =>
    simp only [RuleOption.record] at h
    split at h
    · split_ifs at h
      cases h
      exact parseRuleLoop_flag (by simp [parseOption, ruleTokenOfName, *])
    · cases h
  | cert value =>
    simp only [RuleOption.record] at h
    split_ifs at h with hs
    cases h
    simp only [Bool.or_eq_true, decide_eq_true_eq, not_or, not_not] at hs
    rw [RuleOption.tokens, List.cons_append, parseRuleLoop]
    simp only [parseOption, ruleTokenOfName, hs]
    exact parseRuleLoop_value (by decide) (by simp [parseValue, hs])

/-- On the tokens of an option the format refuses, the loop of `parse_rule` returns NULL where
its checks see what the format sees: `-o` while the outgoing interface is unset, a flag not set
yet, and an interface name of other than 16 bytes. -/
theorem parseRuleLoop_option_none {rule : Rule} {option : RuleOption} (tail : List String)
    (ht : option.Tokenizable) (hout : option.isOutIf = true → rule.outIf = none)
    (hflag : ∀ state, rule.state = some state → state.isSet option = false)
    (hsize : ∀ name, option.interfaceName = some name → name.utf8ByteSize ≠ ifNamesize)
    (h : option.record inetPton6 parseHi rule = none) :
    parseRuleLoop inetPton6 parseHi false .noOption rule (option.tokens ++ tail) = .ok none := by
  cases option with
  | srcHit negated hit | dstHit negated hit | type negated hit | state negated hit =>
    have hv : hit ≠ negateStr := fun he ↦ ht.2 (congrArg some he)
    simp only [RuleOption.record] at h
    rw [RuleOption.tokens, List.cons_append, parseRuleLoop]
    split_ifs at h with hs
    · simp only [parseOption, ruleTokenOfName, hs]
      rfl
    · simp only [parseOption, ruleTokenOfName, hs]
      refine parseRuleLoop_negatedValue_none tail (by decide) hv fun token next hneg ↦ ?_
      simp [parseValue, parseHit, parseType, parseState, parseNegatable, hneg,
        Option.map_eq_none'.mp h]
  | inIf negated name =>
    have hv : name ≠ negateStr := fun he ↦ ht.2 (congrArg some he)
    have hne : name.utf8ByteSize ≠ ifNamesize := hsize name rfl
    simp only [RuleOption.record] at h
    split_ifs at h with hs
    simp only [Bool.or_eq_true, decide_eq_true_eq] at hs
    rw [RuleOption.tokens, List.cons_append, parseRuleLoop]
    by_cases hc : rule.inIf.isSome = true ∨ rule.hook = nfIp6LocalOut
    · simp only [parseOption, ruleTokenOfName, Bool.or_eq_true, decide_eq_true_eq, hc]
      rfl
    · have hle : ifNamesize ≤ name.utf8ByteSize := hs.resolve_left hc
      have hlong : ifNamesize < name.utf8ByteSize := by omega
      simp only [parseOption, ruleTokenOfName, Bool.or_eq_true, decide_eq_true_eq, hc]
      refine parseRuleLoop_negatedValue_none tail (by decide) hv fun token next hneg ↦ ?_
      simp [parseValue, parseIf, hneg, hlong]
  | outIf negated name =>
    have hv : name ≠ negateStr := fun he ↦ ht.2 (congrArg some he)
    have hne : name.utf8ByteSize ≠ ifNamesize := hsize name rfl
    have hunset : rule.outIf = none := hout rfl
    simp only [RuleOption.record] at h
    split_ifs at h with hs
    simp only [hunset, Option.isSome_none, Bool.false_or, Bool.or_eq_true, decide_eq_true_eq] at hs
    rw [RuleOption.tokens, List.cons_append, parseRuleLoop]
    by_cases hc : rule.inIf.isSome = true ∨ rule.hook = nfIp6LocalIn
    · simp only [parseOption, ruleTokenOfName, Bool.or_eq_true, decide_eq_true_eq, hc]
      rfl
    · have hle : ifNamesize ≤ name.utf8ByteSize := hs.resolve_left fun h ↦ hc (.inr h)
      have hlong : ifNamesize < name.utf8ByteSize := by omega
      simp only [parseOption, ruleTokenOfName, Bool.or_eq_true, decide_eq_true_eq, hc]
      refine parseRuleLoop_negatedValue_none tail (by decide) hv fun token next hneg ↦ ?_
      simp [parseValue, parseIf, hneg, hlong]
  | srcHi file =>
    simp only [RuleOption.record] at h
    rw [RuleOption.tokens, List.cons_append, List.singleton_append, parseRuleLoop]
    split at h
    · rename_i source hsource
      split_ifs at h with hs
      · simp only [Bool.and_eq_true, Option.isNone_iff_eq_none] at hs
        simp only [parseOption, ruleTokenOfName, hsource, hs]
        have hvalue : parseValue inetPton6 parseHi .srcHiOption rule file tail.head? =
            .ok (none, false) := by
          simp [parseValue, hsource, Option.map_eq_none'.mp h]
        exact parseRuleLoop_value_none (by decide) hvalue
      · simp only [Bool.and_eq_true, Option.isNone_iff_eq_none, not_and_or] at hs
        simp only [parseOption, ruleTokenOfName, hsource]
        cases hb : source.boolean <;> cases hi : rule.srcHi <;> simp_all
    · rename_i hnone
      simp only [parseOption, ruleTokenOfName, hnone]
      rfl
  | verifyResponder | acceptMobile | decryptContents =>
    simp only [RuleOption.record] at h
    split at h
    · rename_i current hcurrent
      split_ifs at h with hs
      have hunset := hflag current hcurrent
      simp [StateOption.isSet, hs] at hunset
    · rename_i hnone
      rw [RuleOption.tokens, List.cons_append, parseRuleLoop]
      simp only [parseOption, ruleTokenOfName, hnone]
      rfl
  | cert value =>
    simp only [RuleOption.record] at h
    split_ifs at h with hs
    rw [RuleOption.tokens, List.cons_append, parseRuleLoop]
    simp only [Bool.or_eq_true, decide_eq_true_eq] at hs
    simp only [parseOption, ruleTokenOfName, Bool.or_eq_true, decide_eq_true_eq, hs]
    rfl

/-- On the tokens of options the format records one after the other, with no `-i` before an
`-o`, the loop of `parse_rule` records them all and keeps the verdict unset. -/
theorem parseRuleLoop_options {rule rule' : Rule} {options : List RuleOption}
    (tail : List String) (ht : ∀ option ∈ options, option.Tokenizable)
    (horder : inIfBeforeOutIf options = false)
    (hin : options.any RuleOption.isOutIf = true → rule.inIf = none)
    (h : options.foldlM (RuleOption.record inetPton6 parseHi) rule = some rule') :
    parseRuleLoop inetPton6 parseHi false .noOption rule
        (options.flatMap RuleOption.tokens ++ tail) =
      parseRuleLoop inetPton6 parseHi false .noOption rule' tail ∧ rule'.accept = rule.accept := by
  induction options generalizing rule with
  | nil =>
    cases h
    exact ⟨rfl, rfl⟩
  | cons option options ih =>
    obtain ⟨rule₁, h₁, h⟩ := Option.bind_eq_some.mp h
    simp only [inIfBeforeOutIf, Bool.or_eq_false_iff] at horder
    have hframe := RuleOption.record_frame h₁
    have hin₁ : options.any RuleOption.isOutIf = true → rule₁.inIf = none := fun hany ↦ by
      cases hi : option.isInIf
      · rw [hframe.2.2.1 hi]
        exact hin (by simp [hany])
      · simp [hi, hany] at horder
    obtain ⟨hloop, haccept⟩ :=
      ih (fun o ho ↦ ht o (.tail _ ho)) horder.2 hin₁ h
    rw [List.flatMap_cons, List.append_assoc,
      parseRuleLoop_option _ (ht option (.head _)) (fun ho ↦ hin (by simp [ho])) h₁]
    exact ⟨hloop, haccept.trans hframe.1⟩

/-- On the tokens of options the format refuses somewhere, with no `-i` before an `-o`, no flag
or `-o` twice and no interface name of 16 bytes, the loop of `parse_rule` returns NULL. -/
theorem parseRuleLoop_options_none {rule : Rule} {options : List RuleOption}
    (tail : List String) (ht : ∀ option ∈ options, option.Tokenizable)
    (horder : inIfBeforeOutIf options = false) (hrep : repeatsUnchecked options = false)
    (hsize : ∀ option ∈ options, ∀ name, option.interfaceName = some name →
      name.utf8ByteSize ≠ ifNamesize)
    (hw : rule.Awaits options)
    (h : options.foldlM (RuleOption.record inetPton6 parseHi) rule = none) :
    parseRuleLoop inetPton6 parseHi false .noOption rule
      (options.flatMap RuleOption.tokens ++ tail) = .ok none := by
  induction options generalizing rule with
  | nil => cases h
  | cons option options ih =>
    simp only [inIfBeforeOutIf, repeatsUnchecked, Bool.or_eq_false_iff] at horder hrep
    rw [List.flatMap_cons, List.append_assoc]
    cases h₁ : option.record inetPton6 parseHi rule with
    | none =>
      exact parseRuleLoop_option_none _ (ht option (.head _))
        (fun ho ↦ hw.outIf (by simp [ho])) (fun state hs ↦ hw.flags state hs option (.head _))
        (hsize option (.head _)) h₁
    | some rule₁ =>
      rw [List.foldlM_cons, h₁] at h
      rw [parseRuleLoop_option _ (ht option (.head _)) (fun ho ↦ hw.inIf (by simp [ho])) h₁]
      exact ih (fun o ho ↦ ht o (.tail _ ho)) horder.2 hrep.2
        (fun o ho ↦ hsize o (.tail _ ho)) (hw.record h₁ hrep.1 horder.1) h

end Loop

/-! ### The line as a whole -/

/-- `strtok` reads back the tokens of a line with a hook, options whose texts are tokens, and a
verdict. -/
theorem strtokBlank_ruleLine_of_hookOfName {hook verdict : String} {options : List RuleOption}
    {hookValue : Int} (hhook : hookOfName hook = some hookValue)
    (hverdict : verdict = "ACCEPT" ∨ verdict = "DROP") (ht : ∀ option ∈ options, option.Tokenizable) :
    strtokBlank (ruleLine hook options verdict) =
      hook :: (options.flatMap RuleOption.tokens ++ [verdict]) := by
  rw [strtokBlank_ruleLine, List.cons_append]
  intro token hmem
  rcases List.mem_cons.mp hmem with rfl | hmem
  · unfold hookOfName at hhook
    split_ifs at hhook <;> subst token <;> decide
  rcases List.mem_append.mp hmem with hmem | hmem
  · obtain ⟨option, ho, htoken⟩ := List.mem_flatMap.mp hmem
    exact (ht option ho).1 token htoken
  · rw [List.mem_singleton.mp hmem]
    rcases hverdict with rfl | rfl <;> decide

/-- What the format makes of a line of hook `hookValue`: the rule of its options in the hook's
empty rule with the verdict, `none` where the format refuses an option. -/
def formatRule (inetPton6 : String → Option Hit) (parseHi : String → Hit → Option Bytes)
    (hookValue : Int) (options : List RuleOption) (verdict : String) : Option Rule :=
  (options.foldlM (RuleOption.record inetPton6 parseHi) { allocEmptyRule with hook := hookValue }).map
    fun rule ↦ { rule with accept := if verdict = "ACCEPT" then 1 else 0 }

section Line

variable {inetPton6 : String → Option Hit} {parseHi : String → Hit → Option Bytes}
  {hook verdict : String} {options : List RuleOption} {hookValue : Int}

/-- On a line of the format, `parse_rule` returns NULL when its loop does. -/
theorem parseRule_ruleLine_of_loop_none (hhook : hookOfName hook = some hookValue)
    (hverdict : verdict = "ACCEPT" ∨ verdict = "DROP") (ht : ∀ option ∈ options, option.Tokenizable)
    (hloop : parseRuleLoop inetPton6 parseHi false .noOption { allocEmptyRule with hook := hookValue }
      (options.flatMap RuleOption.tokens ++ [verdict]) = .ok none) :
    parseRule inetPton6 parseHi (ruleLine hook options verdict) = .ok none := by
  unfold parseRule
  dsimp only at hloop
  rw [strtokBlank_ruleLine_of_hookOfName hhook hverdict ht]
  simp only [hhook, hloop]
  rfl

/-- On a line of the format, `parse_rule` returns the rule its loop reaches the verdict with,
when the options have left the verdict unset. -/
theorem parseRule_ruleLine_of_loop_some {rule : Rule} (hhook : hookOfName hook = some hookValue)
    (hverdict : verdict = "ACCEPT" ∨ verdict = "DROP") (ht : ∀ option ∈ options, option.Tokenizable)
    (hloop : parseRuleLoop inetPton6 parseHi false .noOption { allocEmptyRule with hook := hookValue }
      (options.flatMap RuleOption.tokens ++ [verdict]) =
        parseRuleLoop inetPton6 parseHi false .noOption rule [verdict])
    (haccept : rule.accept = -1) :
    parseRule inetPton6 parseHi (ruleLine hook options verdict) =
      .ok (some { rule with accept := if verdict = "ACCEPT" then 1 else 0 }) := by
  unfold parseRule
  dsimp only at hloop
  rw [strtokBlank_ruleLine_of_hookOfName hhook hverdict ht]
  simp only [hhook, hloop]
  rcases hverdict with rfl | rfl <;> simp [parseRuleLoop, parseOption, ruleTokenOfName, haccept]

/-- On a line of the format whose texts are tokens and where no `-i` comes before an `-o`,
`parse_rule` returns the rule the format records for the options in the hook's empty rule, with
the verdict: the code refines the format there. -/
theorem parseRule_ruleLine {rule : Rule} (hhook : hookOfName hook = some hookValue)
    (hverdict : verdict = "ACCEPT" ∨ verdict = "DROP") (ht : ∀ option ∈ options, option.Tokenizable)
    (horder : inIfBeforeOutIf options = false)
    (h : options.foldlM (RuleOption.record inetPton6 parseHi)
      { allocEmptyRule with hook := hookValue } = some rule) :
    parseRule inetPton6 parseHi (ruleLine hook options verdict) =
      .ok (some { rule with accept := if verdict = "ACCEPT" then 1 else 0 }) := by
  obtain ⟨hloop, haccept⟩ := parseRuleLoop_options [verdict] ht horder (fun _ ↦ rfl) h
  exact parseRule_ruleLine_of_loop_some hhook hverdict ht hloop haccept

/-- `FORWARD -o eth1 -i ! eth0 -state NEW --verify_responder -cert c DROP`: the options are
tokens with no `-i` before the `-o`, and `parse_rule` returns the rule the format records. -/
theorem parseRule_ruleLine_forward :
    (∀ option ∈ [.outIf false "eth1", .inIf true "eth0", .state false "NEW", .verifyResponder,
        .cert "c"], RuleOption.Tokenizable option) ∧
      inIfBeforeOutIf [.outIf false "eth1", .inIf true "eth0", .state false "NEW",
        .verifyResponder, .cert "c"] = false ∧
      parseRule (fun _ ↦ none) (fun _ _ ↦ none) (ruleLine "FORWARD" [.outIf false "eth1",
          .inIf true "eth0", .state false "NEW", .verifyResponder, .cert "c"] "DROP") =
        .ok (some ⟨none, none, none, none, some ⟨⟨connNew, true⟩, true, false, false⟩,
          some ⟨"eth0", false⟩, some ⟨"eth1", true⟩, some ⟨"c", false⟩, nfIp6Forward, 0⟩) :=
  ⟨by decide, rfl, @parseRule_ruleLine (fun _ ↦ none) (fun _ _ ↦ none) "FORWARD" "DROP"
    [.outIf false "eth1", .inIf true "eth0", .state false "NEW", .verifyResponder, .cert "c"]
    nfIp6Forward ⟨none, none, none, none, some ⟨⟨connNew, true⟩, true, false, false⟩,
      some ⟨"eth0", false⟩, some ⟨"eth1", true⟩, some ⟨"c", false⟩, nfIp6Forward, -1⟩
    rfl (.inr rfl) (by decide) rfl rfl⟩

/-- On a line of the format whose texts are tokens, where the format refuses an option and the
checks of `parse_rule` see what the format sees (no `-i` before an `-o`, no state flag or `-o`
twice, no interface name of 16 bytes), `parse_rule` returns NULL. -/
theorem parseRule_ruleLine_none (hhook : hookOfName hook = some hookValue)
    (hverdict : verdict = "ACCEPT" ∨ verdict = "DROP") (ht : ∀ option ∈ options, option.Tokenizable)
    (horder : inIfBeforeOutIf options = false) (hrep : repeatsUnchecked options = false)
    (hsize : ∀ option ∈ options, ∀ name, option.interfaceName = some name →
      name.utf8ByteSize ≠ ifNamesize)
    (h : options.foldlM (RuleOption.record inetPton6 parseHi)
      { allocEmptyRule with hook := hookValue } = none) :
    parseRule inetPton6 parseHi (ruleLine hook options verdict) = .ok none :=
  parseRule_ruleLine_of_loop_none hhook hverdict ht (parseRuleLoop_options_none [verdict] ht
    horder hrep hsize (allocEmptyRule_awaits hookValue options) h)

/-- `OUTPUT -state NEW -i eth0 ACCEPT`: the format refuses `-i` in OUTPUT, and so does
`parse_rule`. -/
theorem parseRule_ruleLine_output :
    (∀ option ∈ [.state false "NEW", .inIf false "eth0"], RuleOption.Tokenizable option) ∧
      repeatsUnchecked [.state false "NEW", .inIf false "eth0"] = false ∧
      parseRule (fun _ ↦ none) (fun _ _ ↦ none)
        (ruleLine "OUTPUT" [.state false "NEW", .inIf false "eth0"] "ACCEPT") = .ok none :=
  ⟨by decide, rfl, @parseRule_ruleLine_none (fun _ ↦ none) (fun _ _ ↦ none) "OUTPUT" "ACCEPT"
    [.state false "NEW", .inIf false "eth0"] nfIp6LocalOut rfl (.inl rfl) (by decide) rfl rfl
    (by decide) rfl⟩

/-- Where the checks of `parse_rule` see what the format sees, it returns what the format
records, a rule or NULL. -/
theorem parseRule_ruleLine_eq_formatRule (hhook : hookOfName hook = some hookValue)
    (hverdict : verdict = "ACCEPT" ∨ verdict = "DROP") (ht : ∀ option ∈ options, option.Tokenizable)
    (horder : inIfBeforeOutIf options = false) (hrep : repeatsUnchecked options = false)
    (hsize : ∀ option ∈ options, ∀ name, option.interfaceName = some name →
      name.utf8ByteSize ≠ ifNamesize) :
    parseRule inetPton6 parseHi (ruleLine hook options verdict) =
      .ok (formatRule inetPton6 parseHi hookValue options verdict) := by
  unfold formatRule
  cases h : options.foldlM (RuleOption.record inetPton6 parseHi)
    { allocEmptyRule with hook := hookValue } with
  | none =>
    exact parseRule_ruleLine_of_loop_none hhook hverdict ht (parseRuleLoop_options_none [verdict]
      ht horder hrep hsize (allocEmptyRule_awaits hookValue options) h)
  | some rule =>
    obtain ⟨hloop, haccept⟩ := parseRuleLoop_options [verdict] ht horder (fun _ ↦ rfl) h
    exact parseRule_ruleLine_of_loop_some hhook hverdict ht hloop haccept

end Line

end Hipl.Hipfw
