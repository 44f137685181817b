import Hipl.Hipd.Association

/-!
# Parsing a firewall rule

`parse_rule` reads a line of the rule file with `strtok(string, " ")`: a hook, then options, each
followed by its value, and a verdict. The value parsers `parse_hit`, `parse_type`, `parse_state`
and `parse_if` read a leading `!` as negation and then call `strtok(NULL, " ")` themselves for
the value, so the token stream is shared between the loop and the helpers: here each helper says
whether it took the next token, and the loop goes on behind it.

Every rule `parse_rule` returns comes from a line made of a hook, the options and a last token
ACCEPT or DROP, which the rule records (`parseRule_eq_some`). On a line that does not end in `!`
and has no 16-byte token, neither `parse_rule` nor its helpers reach undefined behaviour
(`parseRule_ok`). Both conditions are needed, and the check of `-o` is that of `-i`
(`parseRule_outIfChecksInIf`): it tests `rule->in_if`, so `-o` after `-i` is rejected and a
second `-o` is accepted; a `!` at the end of a line hands `strtok`'s NULL to `strcmp` or to
`inet_pton`; and `parse_if` takes a 16-byte interface name and copies its 17 bytes with the
terminator into `malloc(IF_NAMESIZE)`.

Scope. `inet_pton(AF_INET6, ...)`, which `numeric_to_addr` calls, and `parse_hi`, which loads a
public key from a file, are parameters. The header that declares `struct rule` and the option
structures is not among the sources; their fields are those `alloc_empty_rule` and the parsers
set. `malloc` and `strdup` do not fail. The loop's condition `strlen(string) > 0` reads the hook
token, which `strtok` returns nonempty, and is left out.
-/

set_option autoImplicit false
set_option relaxedAutoImplicit false

namespace Hipl.Hipfw

open Hipl.Wire Hipl.Hipd

/-! ### Tokens, names and rules -/

/-- The tokens successive calls of `strtok(string, " ")` and `strtok(NULL, " ")` return: the
maximal runs of characters other than a blank, in order. -/
def strtokBlank (string : String) : List String :=
  ((string.toList.splitOn ' ').filter (· ≠ [])).map String.mk

/-- `NEGATE_STR`. -/
def negateStr : String := "!"

/-- `NF_IP6_LOCAL_IN` (linux/netfilter_ipv6.h, which is not among the sources). -/
def nfIp6LocalIn : Int := 1
/-- `NF_IP6_FORWARD` (linux/netfilter_ipv6.h). -/
def nfIp6Forward : Int := 2
/-- `NF_IP6_LOCAL_OUT` (linux/netfilter_ipv6.h). -/
def nfIp6LocalOut : Int := 3

/-- `HIP_NOTIFY`, the packet type of a NOTIFY (protodefs.h, which is not among the sources). -/
def hipNotify : Nat := 17

/-- `CONN_NEW`, declared with `CONN_ESTABLISHED` in a header that is not among the sources; any
two distinct values serve. -/
def connNew : Nat := 0
/-- `CONN_ESTABLISHED`. -/
def connEstablished : Nat := 1

/-- `IF_NAMESIZE` (net/if.h): the size of an interface name buffer, terminator included. -/
def ifNamesize : Nat := 16

/-- `struct hit_option`: a HIT, matched (1) or negated (0). -/
structure HitOption where
  value : Hit
  boolean : Bool
  deriving DecidableEq, Repr

/-- `struct int_option`. -/
structure IntOption where
  value : Nat
  boolean : Bool
  deriving DecidableEq, Repr

/-- `struct state_option`: the state and the three flags that may follow it. -/
structure StateOption where
  intOpt : IntOption
  verifyResponder : Bool
  acceptMobile : Bool
  decryptContents : Bool
  deriving DecidableEq, Repr

/-- `struct string_option`. -/
structure StringOption where
  value : String
  boolean : Bool
  deriving DecidableEq, Repr

/-- `struct rule`: each option, `none` for NULL, the host identity `parse_hi` loads as its bytes,
the hook and the verdict, -1 while unset. -/
structure Rule where
  srcHit : Option HitOption
  dstHit : Option HitOption
  srcHi : Option Bytes
  type : Option IntOption
  state : Option StateOption
  inIf : Option StringOption
  outIf : Option StringOption
  cert : Option StringOption
  hook : Int
  accept : Int
  deriving DecidableEq, Repr

/-- `alloc_empty_rule()`. -/
def allocEmptyRule : Rule :=
  ⟨none, none, none, none, none, none, none, none, -1, -1⟩

/-- `option_found`: the option whose value the next token is. -/
inductive OptionFound
  | noOption
  | srcHitOption
  | dstHitOption
  | srcHiOption
  | typeOption
  | stateOption
  | inIfOption
  | outIfOption
  | certOption
  deriving DecidableEq, Repr

/-! ### The value parsers -/

/-- The start of `parse_hit`, `parse_type`, `parse_state` and `parse_if`: after `!` the option is
negated (0) and its value is the token the next `strtok(NULL, " ")` returns, `none` for NULL;
otherwise it is matched (1) and the value is the token. The last component says whether
`strtok` was called. -/
def negateToken (token : String) (next : Option String) : Bool × Option String × Bool :=
  if token = negateStr then (false, next, true) else (true, some token, false)

/-- The shape `parse_hit`, `parse_type` and `parse_state` share: the negation, then the value
`read` takes from the token, put into the option by `mk` with the boolean; `none` where the
function returns NULL, and whether it took the next token. A NULL token reaches `strcmp` or
`inet_pton`. -/
def parseNegatable {α β : Type} (read : String → Option α) (mk : α → Bool → β) (token : String)
    (next : Option String) : Except Fault (Option β × Bool) :=
  let (boolean, token, consumed) := negateToken token next
  match token with
  | none => throw .nullDeref
  | some token => pure ((read token).map (mk · boolean), consumed)

/-- `parse_hit(token)`, with `inet_pton(AF_INET6, ...)`, which `numeric_to_addr` calls, as
`inetPton6`. -/
def parseHit (inetPton6 : String → Option Hit) (token : String) (next : Option String) :
    Except Fault (Option HitOption × Bool) :=
  parseNegatable inetPton6 HitOption.mk token next

/-- The packet type names `parse_type` knows. -/
def hipTypeOfName : String → Option Nat
  | "I1" => some hipI1
  | "R1" => some hipR1
  | "I2" => some hipI2
  | "R2" => some hipR2
  | "UPDATE" => some hipUpdate
  | "NOTIFY" => some hipNotify
  | "CLOSE" => some hipClose
  | "CLOSE_ACK" => some hipCloseAck
  | _ => none

/-- `parse_type(token)`. -/
def parseType (token : String) (next : Option String) : Except Fault (Option IntOption × Bool) :=
  parseNegatable hipTypeOfName IntOption.mk token next

/-- The state names `parse_state` knows: `NEW_STR` and `ESTABLISHED_STR`. -/
def connStateOfName : String → Option Nat
  | "NEW" => some connNew
  | "ESTABLISHED" => some connEstablished
  | _ => none

/-- `parse_state(token)`: the three flags start at 0. -/
def parseState (token : String) (next : Option String) :
    Except Fault (Option StateOption × Bool) :=
  parseNegatable connStateOfName (fun value boolean ↦ ⟨⟨value, boolean⟩, false, false, false⟩)
    token next

/-- `parse_if(token)`: a name longer than `IF_NAMESIZE` bytes is refused; `strcpy` copies the
name and its terminator into `malloc(IF_NAMESIZE)`. -/
def parseIf (token : String) (next : Option String) : Except Fault (Option StringOption × Bool) :=
  let (boolean, token, consumed) := negateToken token next
  match token with
  | none => throw .nullDeref
  | some token =>
    if token.utf8ByteSize > ifNamesize then pure (none, consumed)
    else if ifNamesize < token.utf8ByteSize + 1 then throw .outOfBounds
    else pure (some ⟨token, boolean⟩, consumed)

/-! ### `parse_rule` -/

/-- What the loop of `parse_rule` does with a token when no value is due. -/
inductive OptionStep
  /-- `free_rule(rule); return NULL;` -/
  | reject
  /-- The option's value comes next. -/
  | expect (found : OptionFound)
  /-- A flag of the state option is set. -/
  | flag (rule : Rule)
  /-- ACCEPT or DROP: the verdict is set and the loop ends. -/
  | verdict (rule : Rule)

/-- The names the option branch of `parse_rule` compares a token with, in the order of its
`if` chain. -/
inductive RuleToken
  | srcHit
  | dstHit
  | srcHi
  | type
  | state
  | cert
  | verifyResponder
  | acceptMobile
  | decryptContents
  | inIf
  | outIf
  | accept
  | drop
  deriving DecidableEq, Repr

/-- The first name of the chain a token equals: `SRC_HIT_STR`, `DST_HIT_STR`, `SRC_HI_STR`,
`TYPE_STR`, `STATE_STR`, `CERT_STR`, `VERIFY_RESPONDER_STR`, `ACCEPT_MOBILE_STR`,
`DECRYPT_CONTENTS_STR`, `IN_IF_STR`, `OUT_IF_STR`, ACCEPT and DROP. -/
def ruleTokenOfName : String → Option RuleToken
  | "-src_hit" => some .srcHit
  | "-dst_hit" => some .dstHit
  | "--hi" => some .srcHi
  | "-type" => some .type
  | "-state" => some .state
  | "-cert" => some .cert
  | "--verify_responder" => some .verifyResponder
  | "--accept_mobile" => some .acceptMobile
  | "--decrypt_contents" => some .decryptContents
  | "-i" => some .inIf
  | "-o" => some .outIf
  | "ACCEPT" => some .accept
  | "DROP" => some .drop
  | _ => none

/-- The option branch of the loop of `parse_rule`. -/
def parseOption (rule : Rule) (token : String) : OptionStep :=
  match ruleTokenOfName token with
  | some .srcHit => if rule.srcHit.isSome then .reject else .expect .srcHitOption
  | some .dstHit => if rule.dstHit.isSome then .reject else .expect .dstHitOption
  | some .srcHi =>
    match rule.srcHit with
    | none => .reject
    | some srcHit => if !srcHit.boolean || rule.srcHi.isSome then .reject else .expect .srcHiOption
  | some .type => if rule.type.isSome then .reject else .expect .typeOption
  | some .state => if rule.state.isSome then .reject else .expect .stateOption
  | some .cert =>
    if rule.cert.isSome || rule.hook ≠ nfIp6Forward then .reject else .expect .certOption
  | some .verifyResponder =>
    match rule.state with
    | none => .reject
    | some state => .flag { rule with state := some { state with verifyResponder := true } }
  | some .acceptMobile =>
    match rule.state with
    | none => .reject
    | some state => .flag { rule with state := some { state with acceptMobile := true } }
  | some .decryptContents =>
    match rule.state with
    | none => .reject
    | some state => .flag { rule with state := some { state with decryptContents := true } }
  | some .inIf =>
    if rule.inIf.isSome || rule.hook = nfIp6LocalOut then .reject else .expect .inIfOption
  | some .outIf =>
    if rule.inIf.isSome || rule.hook = nfIp6LocalIn then .reject else .expect .outIfOption
  | some .accept => if rule.accept > -1 then .reject else .verdict { rule with accept := 1 }
  | some .drop => if rule.accept > -1 then .reject else .verdict { rule with accept := 0 }
  | none => .reject

/-- The value branch of the loop of `parse_rule`, with `next` the token after `token`: the rule
with the value set, `none` where `parse_rule` returns NULL, and whether the value parser took the
next token. -/
def parseValue (inetPton6 : String → Option Hit) (parseHi : String → Hit → Option Bytes)
    (found : OptionFound) (rule : Rule) (token : String) (next : Option String) :
    Except Fault (Option Rule × Bool) :=
  match found with
  | .srcHitOption => do
    let (srcHit, consumed) ← parseHit inetPton6 token next
    pure (srcHit.map fun srcHit ↦ { rule with srcHit := some srcHit }, consumed)
  | .dstHitOption => do
    let (dstHit, consumed) ← parseHit inetPton6 token next
    pure (dstHit.map fun dstHit ↦ { rule with dstHit := some dstHit }, consumed)
  | .srcHiOption =>
    match rule.srcHit with
    | none => throw .nullDeref
    | some srcHit => pure ((parseHi token srcHit.value).map fun hi ↦ { rule with srcHi := some hi },
        false)
  | .typeOption => do
    let (type, consumed) ← parseType token next
    pure (type.map fun type ↦ { rule with type := some type }, consumed)
  | .stateOption => do
    let (state, consumed) ← parseState token next
    pure (state.map fun state ↦ { rule with state := some state }, consumed)
  | .certOption => pure (some { rule with cert := some ⟨token, false⟩ }, false)
  | .inIfOption => do
    let (inIf, consumed) ← parseIf token next
    pure (inIf.map fun inIf ↦ { rule with inIf := some inIf }, consumed)
  | .outIfOption => do
    let (outIf, consumed) ← parseIf token next
    pure (outIf.map fun outIf ↦ { rule with outIf := some outIf }, consumed)
  | .noOption => pure (some rule, false)

/-- The loop of `parse_rule` over the tokens `strtok` has not returned to it yet, the first of
them skipped when a value parser took it (`skip`): `none` where `parse_rule` returns NULL from
inside the loop, otherwise the rule at the `break` and the tokens behind it. -/
def parseRuleLoop (inetPton6 : String → Option Hit) (parseHi : String → Hit → Option Bytes) :
    Bool → OptionFound → Rule → List String → Except Fault (Option (Rule × List String))
  | _, _, rule, [] => pure (some (rule, []))
  | true, found, rule, _ :: rest => parseRuleLoop inetPton6 parseHi false found rule rest
  | false, .noOption, rule, token :: rest =>
    match parseOption rule token with
    | .reject => pure none
    | .expect found => parseRuleLoop inetPton6 parseHi false found rule rest
    | .flag rule => parseRuleLoop inetPton6 parseHi false .noOption rule rest
    | .verdict rule => pure (some (rule, rest))
  | false, found, rule, token :: rest => do
    let (rule?, consumed) ← parseValue inetPton6 parseHi found rule token rest.head?
    match rule? with
    | none => pure none
    | some rule => parseRuleLoop inetPton6 parseHi consumed .noOption rule rest

/-- The hook a rule starts with. -/
def hookOfName (token : String) : Option Int :=
  if token = "INPUT" then some nfIp6LocalIn
  else if token = "OUTPUT" then some nfIp6LocalOut
  else if token = "FORWARD" then some nfIp6Forward
  else none

/-- `parse_rule(string)`: the rule, `none` for NULL. -/
def parseRule (inetPton6 : String → Option Hit) (parseHi : String → Hit → Option Bytes)
    (string : String) : Except Fault (Option Rule) :=
  match strtokBlank string with
  | [] => pure none
  | token :: rest =>
    match hookOfName token with
    | none => pure none
    | some hook => do
      match ← parseRuleLoop inetPton6 parseHi false .noOption { allocEmptyRule with hook } rest with
      | none => pure none
      | some (rule, rest) =>
        if rule.accept = -1 then pure none
        else if rest ≠ [] then pure none
        else pure (some rule)

/-! ### What one step of the loop does -/

/-- The constraints between the options of a rule and its hook that the checks of `parse_rule`
enforce: no incoming interface in OUTPUT, no outgoing one in INPUT, a certificate only in
FORWARD, and a host identity only behind a matched source HIT. -/
structure Rule.HookConsistent (rule : Rule) : Prop where
  inIf : rule.inIf ≠ none → rule.hook ≠ nfIp6LocalOut
  outIf : rule.outIf ≠ none → rule.hook ≠ nfIp6LocalIn
  cert : rule.cert ≠ none → rule.hook = nfIp6Forward
  srcHi : rule.srcHi ≠ none → ∃ srcHit, rule.srcHit = some srcHit ∧ srcHit.boolean = true

/-- What the check of an option has established when its value is due. The check of `-o` is
on the incoming interface. -/
def OptionFound.Checked (rule : Rule) : OptionFound → Prop
  | .noOption => True
  | .srcHitOption => rule.srcHit = none
  | .dstHitOption => rule.dstHit = none
  | .srcHiOption => rule.srcHi = none ∧ ∃ srcHit, rule.srcHit = some srcHit ∧ srcHit.boolean = true
  | .typeOption => rule.type = none
  | .stateOption => rule.state = none
  | .inIfOption => rule.inIf = none ∧ rule.hook ≠ nfIp6LocalOut
  | .outIfOption => rule.inIf = none ∧ rule.hook ≠ nfIp6LocalIn
  | .certOption => rule.cert = none ∧ rule.hook = nfIp6Forward

theorem allocEmptyRule_hookConsistent (hook : Int) : { allocEmptyRule with hook }.HookConsistent :=
  ⟨fun h ↦ absurd rfl h, fun h ↦ absurd rfl h, fun h ↦ absurd rfl h, fun h ↦ absurd rfl h⟩

/-- An option whose check passed awaits its value. -/
theorem parseOption_expect {rule : Rule} {token : String} {found : OptionFound}
    (h : parseOption rule token = .expect found) : found ≠ .noOption ∧ found.Checked rule := by
  unfold parseOption at h
  split at h <;> (try split at h) <;> (try split at h) <;> cases h <;>
    simp_all [OptionFound.Checked]

/-- A flag changes the state option alone. -/
theorem parseOption_flag {rule rule' : Rule} {token : String}
    (h : parseOption rule token = .flag rule') :
    ∃ state, rule' = { rule with state := some state } := by
  unfold parseOption at h
  split at h <;> (try split at h) <;> (try split at h) <;> cases h <;> exact ⟨_, rfl⟩

theorem ruleTokenOfName_eq_verdict {token : String} :
    (ruleTokenOfName token = some .accept → token = "ACCEPT") ∧
      (ruleTokenOfName token = some .drop → token = "DROP") := by
  unfold ruleTokenOfName
  split <;> simp

/-- A verdict sets `accept` alone, to 1 for ACCEPT and to 0 for DROP. -/
theorem parseOption_verdict {rule rule' : Rule} {token : String}
    (h : parseOption rule token = .verdict rule') :
    token = "ACCEPT" ∧ rule' = { rule with accept := 1 } ∨
      token = "DROP" ∧ rule' = { rule with accept := 0 } := by
  unfold parseOption at h
  split at h <;> (try split at h) <;> (try split at h) <;> cases h
  · exact .inl ⟨ruleTokenOfName_eq_verdict.1 ‹_›, rfl⟩
  · exact .inr ⟨ruleTokenOfName_eq_verdict.2 ‹_›, rfl⟩

/-- A value parser's result put into the rule. -/
theorem bind_map_eq_ok_some {α : Type} {p : Except Fault (Option α × Bool)} {f : α → Rule}
    {rule : Rule} {consumed : Bool}
    (h : (p >>= fun (x, c) ↦ pure (x.map f, c)) = .ok (some rule, consumed)) :
    ∃ x, rule = f x := by
  obtain ⟨⟨x, c⟩, -, h⟩ := bind_eq_ok.mp h
  cases x with
  | none => cases h
  | some x =>
    simp only [Option.map_some', pure_eq_ok, Except.ok.injEq, Prod.mk.injEq,
      Option.some.injEq] at h
    exact ⟨x, h.1.symm⟩

/-- A value that parses goes into its field alone, which keeps the rule consistent with its
hook. -/
theorem parseValue_some {inetPton6 : String → Option Hit} {parseHi : String → Hit → Option Bytes}
    {found : OptionFound} {rule rule' : Rule} {token : String} {next : Option String}
    {consumed : Bool} (hc : found.Checked rule) (hr : rule.HookConsistent)
    (h : parseValue inetPton6 parseHi found rule token next = .ok (some rule', consumed)) :
    rule'.HookConsistent ∧ rule'.hook = rule.hook ∧ rule'.accept = rule.accept := by
  have hsame : ∀ {r : Rule}, r.inIf = rule.inIf → r.outIf = rule.outIf → r.cert = rule.cert →
      r.srcHi = rule.srcHi → r.srcHit = rule.srcHit → r.hook = rule.hook → r.HookConsistent :=
    fun h1 h2 h3 h4 h5 h6 ↦ ⟨h1 ▸ h6 ▸ hr.inIf, h2 ▸ h6 ▸ hr.outIf, h3 ▸ h6 ▸ hr.cert,
      h4 ▸ h5 ▸ hr.srcHi⟩
  cases found with
  | noOption =>
    simp only [parseValue, pure_eq_ok, Except.ok.injEq, Prod.mk.injEq, Option.some.injEq] at h
    obtain ⟨rfl, -⟩ := h
    exact ⟨hr, rfl, rfl⟩
  | srcHitOption =>
    obtain ⟨x, rfl⟩ := bind_map_eq_ok_some h
    refine ⟨⟨hr.inIf, hr.outIf, hr.cert, fun hs ↦ ?_⟩, rfl, rfl⟩
    obtain ⟨_, hsrc, -⟩ := hr.srcHi hs
    have hnone : rule.srcHit = none := hc
    rw [hnone] at hsrc
    cases hsrc
  | dstHitOption =>
    obtain ⟨x, rfl⟩ := bind_map_eq_ok_some h
    exact ⟨hsame rfl rfl rfl rfl rfl rfl, rfl, rfl⟩
  | srcHiOption =>
    simp only [parseValue] at h
    obtain ⟨-, srcHit, hsrc, hb⟩ := hc
    rw [hsrc] at h
    simp only [pure_eq_ok, Except.ok.injEq, Prod.mk.injEq] at h
    cases hhi : parseHi token srcHit.value with
    | none => simp [hhi] at h
    | some hi =>
      simp only [hhi, Option.map_some', Option.some.injEq] at h
      obtain ⟨rfl, -⟩ := h
      exact ⟨⟨hr.inIf, hr.outIf, hr.cert, fun _ ↦ ⟨srcHit, rfl, hb⟩⟩, rfl, rfl⟩
  | typeOption =>
    obtain ⟨x, rfl⟩ := bind_map_eq_ok_some h
    exact ⟨hsame rfl rfl rfl rfl rfl rfl, rfl, rfl⟩
  | stateOption =>
    obtain ⟨x, rfl⟩ := bind_map_eq_ok_some h
    exact ⟨hsame rfl rfl rfl rfl rfl rfl, rfl, rfl⟩
  | inIfOption =>
    obtain ⟨x, rfl⟩ := bind_map_eq_ok_some h
    exact ⟨⟨fun _ ↦ hc.2, hr.outIf, hr.cert, hr.srcHi⟩, rfl, rfl⟩
  | outIfOption =>
    obtain ⟨x, rfl⟩ := bind_map_eq_ok_some h
    exact ⟨⟨hr.inIf, fun _ ↦ hc.2, hr.cert, hr.srcHi⟩, rfl, rfl⟩
  | certOption =>
    simp only [parseValue, pure_eq_ok, Except.ok.injEq, Prod.mk.injEq, Option.some.injEq] at h
    obtain ⟨rfl, -⟩ := h
    exact ⟨⟨hr.inIf, hr.outIf, fun _ ↦ hc.2, hr.srcHi⟩, rfl, rfl⟩

/-! ### Every run of the loop -/

/-- How a run of the loop from `rule` over `tokens` may end with `rule'` and the tokens `rest`
behind the `break`: with a rule consistent with the same hook, and either with the tokens run
out and `accept` as it was, or at a verdict token, which the rule records. -/
def LoopBreak (rule : Rule) (tokens : List String) (rule' : Rule) (rest : List String) : Prop :=
  rule'.HookConsistent ∧ rule'.hook = rule.hook ∧
    (rest = [] ∧ rule'.accept = rule.accept ∨
      ∃ body verdict, tokens = body ++ verdict :: rest ∧
        (verdict = "ACCEPT" ∧ rule'.accept = 1 ∨ verdict = "DROP" ∧ rule'.accept = 0))

/-- A step that reads a token and keeps the hook and the verdict. -/
theorem LoopBreak.cons {rule rule₁ rule' : Rule} {token : String} {tokens rest : List String}
    (h : LoopBreak rule₁ tokens rule' rest) (hhook : rule₁.hook = rule.hook)
    (haccept : rule₁.accept = rule.accept) : LoopBreak rule (token :: tokens) rule' rest := by
  obtain ⟨h1, h2, ⟨h3, h4⟩ | ⟨body, verdict, rfl, hv⟩⟩ := h
  · exact ⟨h1, h2.trans hhook, .inl ⟨h3, h4.trans haccept⟩⟩
  · exact ⟨h1, h2.trans hhook, .inr ⟨token :: body, verdict, rfl, hv⟩⟩

/-- Over every run of the loop from a rule consistent with its hook, with the check of the
option awaiting its value passed, the loop breaks as `LoopBreak` says. -/
theorem parseRuleLoop_some {inetPton6 : String → Option Hit}
    {parseHi : String → Hit → Option Bytes} (skip : Bool) (found : OptionFound) (rule : Rule)
    (tokens : List String) :
    ∀ {rule' : Rule} {rest : List String}, rule.HookConsistent → found.Checked rule →
      parseRuleLoop inetPton6 parseHi skip found rule tokens = .ok (some (rule', rest)) →
        LoopBreak rule tokens rule' rest := by
  induction skip, found, rule, tokens using parseRuleLoop.induct inetPton6 parseHi with
  | case1 skip found rule =>
    intro rule' rest hr _ h
    simp only [parseRuleLoop, pure_eq_ok, Except.ok.injEq, Option.some.injEq,
      Prod.mk.injEq] at h
    obtain ⟨rfl, rfl⟩ := h
    exact ⟨hr, rfl, .inl ⟨rfl, rfl⟩⟩
  | case2 found rule token rest ih =>
    intro rule' rest' hr hc h
    exact (ih hr hc h).cons rfl rfl
  | case3 rule token rest hstep =>
    intro rule' rest' _ _ h
    simp only [parseRuleLoop, hstep, pure_eq_ok, Except.ok.injEq] at h
    cases h
  | case4 rule token rest found hstep ih =>
    intro rule' rest' hr _ h
    simp only [parseRuleLoop, hstep] at h
    exact (ih hr (parseOption_expect hstep).2 h).cons rfl rfl
  | case5 rule token rest rule₁ hstep ih =>
    intro rule' rest' hr _ h
    simp only [parseRuleLoop, hstep] at h
    obtain ⟨state, rfl⟩ := parseOption_flag hstep
    exact (ih ⟨hr.inIf, hr.outIf, hr.cert, hr.srcHi⟩ trivial h).cons rfl rfl
  | case6 rule token rest rule₁ hstep =>
    intro rule' rest' hr _ h
    simp only [parseRuleLoop, hstep, pure_eq_ok, Except.ok.injEq, Option.some.injEq,
      Prod.mk.injEq] at h
    obtain ⟨rfl, rfl⟩ := h
    have hr' : ∀ a : Int, { rule with accept := a }.HookConsistent :=
      fun _ ↦ ⟨hr.inIf, hr.outIf, hr.cert, hr.srcHi⟩
    rcases parseOption_verdict hstep with ⟨rfl, rfl⟩ | ⟨rfl, rfl⟩
    · exact ⟨hr' 1, rfl, .inr ⟨[], _, rfl, .inl ⟨rfl, rfl⟩⟩⟩
    · exact ⟨hr' 0, rfl, .inr ⟨[], _, rfl, .inr ⟨rfl, rfl⟩⟩⟩
  | case7 found rule token rest hne ih =>
    intro rule' rest' hr hc h
    simp only [parseRuleLoop, bind_eq_ok] at h
    obtain ⟨⟨rule₁?, consumed⟩, hv, h⟩ := h
    cases rule₁? with
    | none => cases h
    | some rule₁ =>
      obtain ⟨hr₁, hhook, haccept⟩ := parseValue_some hc hr hv
      exact (ih consumed rule₁ hr₁ trivial h).cons hhook haccept

/-- Every rule `parse_rule` returns comes from a line made of a hook, then tokens, then a last
token ACCEPT or DROP: it has that hook and that verdict, and is consistent with its hook. -/
theorem parseRule_eq_some {inetPton6 : String → Option Hit} {parseHi : String → Hit → Option Bytes}
    {string : String} {rule : Rule} (h : parseRule inetPton6 parseHi string = .ok (some rule)) :
    rule.HookConsistent ∧ ∃ hook body verdict, strtokBlank string = hook :: (body ++ [verdict]) ∧
      hookOfName hook = some rule.hook ∧
      (verdict = "ACCEPT" ∧ rule.accept = 1 ∨ verdict = "DROP" ∧ rule.accept = 0) := by
  cases htok : strtokBlank string with
  | nil => simp [parseRule, htok] at h
  | cons token rest =>
    cases hhook : hookOfName token with
    | none => simp [parseRule, htok, hhook] at h
    | some hook =>
      simp only [parseRule, htok, hhook, bind_eq_ok] at h
      obtain ⟨r, hloop, h⟩ := h
      rcases r with _ | ⟨rule₁, rest₁⟩
      · cases h
      obtain ⟨hr, hhook₁, ⟨rfl, haccept⟩ | ⟨body, verdict, rfl, hv⟩⟩ :=
        parseRuleLoop_some false .noOption _ rest (allocEmptyRule_hookConsistent hook) trivial hloop
      · simp only [haccept] at h
        cases h
      have ha : rule₁.accept ≠ -1 := by rcases hv with ⟨-, ha⟩ | ⟨-, ha⟩ <;> rw [ha] <;> decide
      simp only [if_neg ha] at h
      split_ifs at h with hrest
      · cases h
      simp only [pure_eq_ok, Except.ok.injEq, Option.some.injEq, ne_eq, not_not] at h hrest
      subst h hrest
      exact ⟨hr, token, body, verdict, rfl, by rw [hhook, hhook₁], hv⟩

/-- A rule of the INPUT hook that accepts I2s. -/
theorem parseRule_typeI2 : ∃ rule, parseRule (fun _ ↦ none) (fun _ _ ↦ none)
      "INPUT -type I2 ACCEPT" = .ok (some rule) ∧
    rule.HookConsistent ∧ ∃ hook body verdict,
      strtokBlank "INPUT -type I2 ACCEPT" = hook :: (body ++ [verdict]) ∧
      hookOfName hook = some rule.hook ∧
      (verdict = "ACCEPT" ∧ rule.accept = 1 ∨ verdict = "DROP" ∧ rule.accept = 0) :=
  have hrun : ∃ rule, parseRule (fun _ ↦ none) (fun _ _ ↦ none) "INPUT -type I2 ACCEPT" =
      .ok (some rule) := ⟨_, rfl⟩
  let ⟨_, h⟩ := hrun
  ⟨_, h, parseRule_eq_some h⟩

/-! ### No undefined behaviour -/

/-- A value parser reaches no undefined behaviour unless a `!` has no token behind it. -/
theorem parseNegatable_ok {α β : Type} (read : String → Option α) (mk : α → Bool → β)
    {token : String} {next : Option String} (hnext : token = negateStr → next ≠ none) :
    ∃ r, parseNegatable read mk token next = .ok r := by
  unfold parseNegatable negateToken
  split_ifs with hneg
  · obtain ⟨v, rfl⟩ := Option.ne_none_iff_exists'.mp (hnext hneg)
    exact ⟨_, rfl⟩
  · exact ⟨_, rfl⟩

/-- `parse_if` reaches no undefined behaviour unless a `!` has no token behind it or the name has
`IF_NAMESIZE` bytes. -/
theorem parseIf_ok {token : String} {next : Option String}
    (hnext : token = negateStr → next ≠ none) (hsize : token.utf8ByteSize ≠ ifNamesize)
    (hsize' : ∀ v, next = some v → v.utf8ByteSize ≠ ifNamesize) :
    ∃ r, parseIf token next = .ok r := by
  have hbody : ∀ (v : String) (boolean consumed : Bool), v.utf8ByteSize ≠ ifNamesize →
      ∃ r, (if v.utf8ByteSize > ifNamesize then pure (none, consumed)
        else if ifNamesize < v.utf8ByteSize + 1 then throw .outOfBounds
        else pure (some ⟨v, boolean⟩, consumed) : Except Fault (Option StringOption × Bool)) =
          .ok r := by
    intro v boolean consumed hv
    split_ifs with h1 h2
    · exact ⟨_, rfl⟩
    · omega
    · exact ⟨_, rfl⟩
  unfold parseIf negateToken
  split_ifs with hneg
  · obtain ⟨v, rfl⟩ := Option.ne_none_iff_exists'.mp (hnext hneg)
    exact hbody v false true (hsize' v rfl)
  · exact hbody token true false hsize

/-- A value step reaches no undefined behaviour unless a `!` has no token behind it or an
interface name has `IF_NAMESIZE` bytes. -/
theorem parseValue_ok (inetPton6 : String → Option Hit) (parseHi : String → Hit → Option Bytes)
    {found : OptionFound} {rule : Rule} {token : String} {next : Option String}
    (hc : found.Checked rule) (hnext : token = negateStr → next ≠ none)
    (hsize : token.utf8ByteSize ≠ ifNamesize)
    (hsize' : ∀ v, next = some v → v.utf8ByteSize ≠ ifNamesize) :
    ∃ r, parseValue inetPton6 parseHi found rule token next = .ok r := by
  cases found with
  | noOption | certOption => exact ⟨_, rfl⟩
  | srcHitOption | dstHitOption =>
    obtain ⟨r, hr⟩ := parseNegatable_ok inetPton6 HitOption.mk hnext
    simp only [parseValue, parseHit, hr, ok_bind]
    exact ⟨_, rfl⟩
  | typeOption =>
    obtain ⟨r, hr⟩ := parseNegatable_ok hipTypeOfName IntOption.mk hnext
    simp only [parseValue, parseType, hr, ok_bind]
    exact ⟨_, rfl⟩
  | stateOption =>
    obtain ⟨r, hr⟩ := parseNegatable_ok connStateOfName
      (fun value boolean ↦ (⟨⟨value, boolean⟩, false, false, false⟩ : StateOption)) hnext
    simp only [parseValue, parseState, hr, ok_bind]
    exact ⟨_, rfl⟩
  | srcHiOption =>
    obtain ⟨-, srcHit, hsrc, -⟩ := hc
    simp only [parseValue, hsrc]
    exact ⟨_, rfl⟩
  | inIfOption | outIfOption =>
    obtain ⟨r, hr⟩ := parseIf_ok hnext hsize hsize'
    simp only [parseValue, hr, ok_bind]
    exact ⟨_, rfl⟩

theorem getLast?_ne_of_cons {token x : String} {rest : List String}
    (h : (token :: rest).getLast? ≠ some x) : rest.getLast? ≠ some x := by
  cases rest with
  | nil => simp
  | cons => rwa [List.getLast?_cons_cons] at h

/-- Over every run of the loop whose tokens do not end in `!` and hold no token of
`IF_NAMESIZE` bytes, with the check of the option awaiting its value passed, the loop reaches no
undefined behaviour. -/
theorem parseRuleLoop_ok (inetPton6 : String → Option Hit) (parseHi : String → Hit → Option Bytes)
    (skip : Bool) (found : OptionFound) (rule : Rule) (tokens : List String) :
    found.Checked rule → tokens.getLast? ≠ some negateStr →
      (∀ token ∈ tokens, token.utf8ByteSize ≠ ifNamesize) →
        ∃ r, parseRuleLoop inetPton6 parseHi skip found rule tokens = .ok r := by
  induction skip, found, rule, tokens using parseRuleLoop.induct inetPton6 parseHi with
  | case1 =>
    intro _ _ _
    simp only [parseRuleLoop]
    exact ⟨_, rfl⟩
  | case2 found rule token rest ih =>
    intro hc hlast hsize
    simp only [parseRuleLoop]
    exact ih hc (getLast?_ne_of_cons hlast) fun t ht ↦ hsize t (List.mem_cons_of_mem _ ht)
  | case3 rule token rest hstep =>
    intro _ _ _
    simp only [parseRuleLoop, hstep]
    exact ⟨_, rfl⟩
  | case4 rule token rest found hstep ih =>
    intro _ hlast hsize
    simp only [parseRuleLoop, hstep]
    exact ih (parseOption_expect hstep).2 (getLast?_ne_of_cons hlast)
      fun t ht ↦ hsize t (List.mem_cons_of_mem _ ht)
  | case5 rule token rest rule₁ hstep ih =>
    intro _ hlast hsize
    simp only [parseRuleLoop, hstep]
    exact ih trivial (getLast?_ne_of_cons hlast) fun t ht ↦ hsize t (List.mem_cons_of_mem _ ht)
  | case6 rule token rest rule₁ hstep =>
    intro _ _ _
    simp only [parseRuleLoop, hstep]
    exact ⟨_, rfl⟩
  | case7 found rule token rest hne ih =>
    intro hc hlast hsize
    have hnext : token = negateStr → rest.head? ≠ none := by
      intro hneg
      cases rest with
      | nil => exact absurd (by rw [hneg]; rfl) hlast
      | cons => exact Option.some_ne_none _
    obtain ⟨⟨rule?, consumed⟩, hv⟩ := parseValue_ok inetPton6 parseHi hc hnext
      (hsize token (List.mem_cons_self _ _))
      fun v hv ↦ hsize v (List.mem_cons_of_mem _ (List.mem_of_mem_head? hv))
    simp only [parseRuleLoop, hv, ok_bind]
    cases rule? with
    | none => exact ⟨_, rfl⟩
    | some rule₁ =>
      exact ih consumed rule₁ trivial (getLast?_ne_of_cons hlast)
        fun t ht ↦ hsize t (List.mem_cons_of_mem _ ht)

/-- On a line that does not end in `!` and has no token of `IF_NAMESIZE` bytes, `parse_rule` and
its helpers reach no undefined behaviour. -/
theorem parseRule_ok (inetPton6 : String → Option Hit) (parseHi : String → Hit → Option Bytes)
    {string : String} (hlast : (strtokBlank string).getLast? ≠ some negateStr)
    (hsize : ∀ token ∈ strtokBlank string, token.utf8ByteSize ≠ ifNamesize) :
    ∃ r, parseRule inetPton6 parseHi string = .ok r := by
  cases htok : strtokBlank string with
  | nil => exact ⟨none, by simp only [parseRule, htok]; rfl⟩
  | cons token rest =>
    rw [htok] at hlast hsize
    cases hhook : hookOfName token with
    | none => exact ⟨none, by simp only [parseRule, htok, hhook]; rfl⟩
    | some hook =>
      obtain ⟨r, hr⟩ := parseRuleLoop_ok inetPton6 parseHi false .noOption
        { allocEmptyRule with hook } rest trivial (getLast?_ne_of_cons hlast)
        fun t ht ↦ hsize t (List.mem_cons_of_mem _ ht)
      simp only [parseRule, htok, hhook, hr, ok_bind]
      rcases r with _ | ⟨rule, rest'⟩
      · exact ⟨_, rfl⟩
      · dsimp only
        split_ifs <;> exact ⟨_, rfl⟩

/-- A rule of the FORWARD hook with a negated state and its option. -/
theorem parseRule_forwardStates :
    (strtokBlank "FORWARD -state ! ESTABLISHED --verify_responder DROP").getLast? ≠
        some negateStr ∧
    (∀ token ∈ strtokBlank "FORWARD -state ! ESTABLISHED --verify_responder DROP",
      token.utf8ByteSize ≠ ifNamesize) ∧
    ∃ r, parseRule (fun _ ↦ none) (fun _ _ ↦ none)
      "FORWARD -state ! ESTABLISHED --verify_responder DROP" = .ok r :=
  have hlast : (strtokBlank "FORWARD -state ! ESTABLISHED --verify_responder DROP").getLast? ≠
      some negateStr := by decide
  have hsize : ∀ token ∈ strtokBlank "FORWARD -state ! ESTABLISHED --verify_responder DROP",
      token.utf8ByteSize ≠ ifNamesize := by decide
  ⟨hlast, hsize, parseRule_ok _ _ hlast hsize⟩

/-! ### What the checks miss -/

/-- The check of `-o` tests `rule->in_if`: `-o` after `-i` is rejected, and a second `-o` is
accepted and keeps the last name. A `!` at the end of the line after `-type` hands NULL to
`strcmp`, after `-src_hit` to `inet_pton`. A 16-byte interface name overruns its buffer. -/
theorem parseRule_outIfChecksInIf (inetPton6 : String → Option Hit)
    (parseHi : String → Hit → Option Bytes) :
    parseRule inetPton6 parseHi "FORWARD -i eth0 -o eth1 ACCEPT" = .ok none ∧
      parseRule inetPton6 parseHi "FORWARD -o eth0 -o eth1 ACCEPT" =
        .ok (some ⟨none, none, none, none, none, none, some ⟨"eth1", true⟩, none, nfIp6Forward,
          1⟩) ∧
      parseRule inetPton6 parseHi "INPUT -type !" = .error .nullDeref ∧
      parseRule inetPton6 parseHi "INPUT -src_hit !" = .error .nullDeref ∧
      parseRule inetPton6 parseHi "INPUT -i abcdefghijklmnop ACCEPT" = .error .outOfBounds :=
  ⟨rfl, rfl, rfl, rfl, rfl⟩

end Hipl.Hipfw
