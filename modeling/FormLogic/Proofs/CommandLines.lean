import FormLogic.Command.Arguments
/-!
# The grammar of an evaluation's command line

The words after `eval` fall into groups: a flag with its value, and the expression by itself.  A command line is
accepted exactly when its groups name one expression, no more than one node, and return types only by the names of
kinds; the request then records the last value given for each flag (`EvalRequest.Records`).  The same relation, for the
groups read so far, is the invariant of the parser: a group that may follow keeps it (`Records.word`, `Records.flag`),
and every group of a line that can be recorded as a whole may follow.  So the order of the groups matters only between
values of one flag, and a request is read back from its groups in any order.
-/
namespace FormLogic

theorem Kind.eq_of_sameName {k k' : Kind} (h : Text.sameIgnoringCase k.name k'.name = true) : k = k' := by
  cases k <;> cases k' <;> first | rfl | (revert h; decide)

/-- **A word is read as the kind that it names**, in any case of the letters. -/
theorem Kind.parse?_eq_some {word : String} {k : Kind} :
    Kind.parse? word = some k ↔ Text.sameIgnoringCase k.name word = true := by
  unfold Kind.parse?
  constructor
  · intro hfound
    have h := List.find?_some hfound
    exact h
  · intro h
    cases hfound : Kind.all.find? fun k => Text.sameIgnoringCase k.name word with
    | none => exact absurd h (List.find?_eq_none.mp hfound k (by cases k <;> decide))
    | some k' =>
      have h' := List.find?_some hfound
      simp only [Text.sameIgnoringCase, decide_eq_true_eq] at h h'
      rw [Kind.eq_of_sameName (decide_eq_true (h'.trans h.symm))]

namespace Flag

theorem ofName?_name (flag : Flag) : ofName? flag.name = some flag := by
  cases flag <;> rfl

theorem name_of_ofName? {word : String} {flag : Flag} (h : ofName? word = some flag) : flag.name = word := by
  unfold ofName? at h
  have hname := List.find?_some h
  exact of_decide_eq_true hname

theorem looksLikeFlag_name (flag : Flag) : looksLikeFlag flag.name = true := by
  cases flag <;> rfl

theorem ofName?_eq_none {word : String} (h : looksLikeFlag word = false) : ofName? word = none := by
  cases hfound : ofName? word with
  | none => rfl
  | some flag =>
    rw [← name_of_ofName? hfound, looksLikeFlag_name] at h
    cases h

end Flag

def Node.pageId? : Node → Option String
  | .page id => some id
  | _ => none

theorem Node.eq_of_ids {n n' : Node} (hcomponent : n.componentId? = n'.componentId?) (hpage : n.pageId? = n'.pageId?) :
    n = n' := by
  cases n <;> cases n' <;> simp_all [componentId?, pageId?]

/-- **A group of words**: the expression, or a flag with its value. -/
inductive WordGroup where
  | expression (word : String)
  | flag (flag : Flag) (value : String)

namespace WordGroup

def words : WordGroup → List String
  | expression word => [word]
  | flag f value => [f.name, value]

def expression? : WordGroup → Option String
  | expression word => some word
  | flag _ _ => none

def value? (wanted : Flag) : WordGroup → Option String
  | expression _ => none
  | flag f value => if f = wanted then some value else none

end WordGroup

namespace CommandLine

variable {before after groups : List WordGroup}

/-- **The words of some groups**, one group after the other. -/
def spell (groups : List WordGroup) : List String := groups.flatMap WordGroup.words

def expressions (groups : List WordGroup) : List String := groups.filterMap WordGroup.expression?

/-- The values given for a flag, from left to right. -/
def values (flag : Flag) (groups : List WordGroup) : List String := groups.filterMap (WordGroup.value? flag)

/-- **The value given last** for a flag. -/
def last? (flag : Flag) (groups : List WordGroup) : Option String := (values flag groups).getLast?

theorem expressions_append (before after : List WordGroup) :
    expressions (before ++ after) = expressions before ++ expressions after := List.filterMap_append

theorem values_append (flag : Flag) (before after : List WordGroup) :
    values flag (before ++ after) = values flag before ++ values flag after := List.filterMap_append

theorem values_flag (f wanted : Flag) (value : String) (after : List WordGroup) :
    values wanted (.flag f value :: after) = (if f = wanted then [value] else []) ++ values wanted after := by
  have hvalue : WordGroup.value? wanted (.flag f value) = if f = wanted then some value else none := rfl
  rw [values, List.filterMap_cons, hvalue]
  by_cases h : f = wanted
  · rw [if_pos h, if_pos h]
    rfl
  · rw [if_neg h, if_neg h]
    rfl

theorem values_append_flag (f wanted : Flag) (value : String) :
    values wanted (before ++ [.flag f value]) = values wanted before ++ if f = wanted then [value] else [] := by
  rw [values_append, values_flag]
  exact congrArg _ (List.append_nil _)

theorem last?_append_flag (f wanted : Flag) (value : String) :
    last? wanted (before ++ [.flag f value]) = if f = wanted then some value else last? wanted before := by
  rw [last?, values_append_flag]
  by_cases h : f = wanted
  · rw [if_pos h, if_pos h, List.getLast?_concat]
  · rw [if_neg h, if_neg h, List.append_nil, last?]

end CommandLine

open CommandLine

namespace EvalRequest

variable {before after groups : List WordGroup} {expression : Option String} {request result : EvalRequest} {f : Flag}
  {value : String}

/-- **The value that a flag has to be given** for a request. -/
def given (request : EvalRequest) : Flag → Option String
  | .data => request.data
  | .node => request.node.componentId?
  | .page => request.node.pageId?
  | .default => request.defaultValue
  | .returnType => request.returnType.map Kind.name
  | .args => request.arguments
  | .intro => request.introduction

/-- **What a request records of groups of words**: the last value of each flag, a return type being the kind that its
value names.  There is one expression at most, and one node at most, and every return type names a kind. -/
structure Records (groups : List WordGroup) (expression : Option String) (request : EvalRequest) : Prop where
  found : expressions groups = expression.toList
  plain : ∀ word ∈ expression, looksLikeFlag word = false
  node : (values .node groups ++ values .page groups).length ≤ 1
  given : ∀ flag, flag ≠ .returnType → request.given flag = last? flag groups
  kinds : ∀ value ∈ values .returnType groups, ∃ kind : Kind, Text.sameIgnoringCase kind.name value = true
  returnType : ∀ kind : Kind, request.returnType = some kind ↔
    ∃ value, last? .returnType groups = some value ∧ Text.sameIgnoringCase kind.name value = true

/-- The groups of words that a request is written with. -/
def toGroups (request : EvalRequest) : List WordGroup :=
  .expression request.expression :: Flag.all.flatMap fun flag => ((request.given flag).map (.flag flag)).toList

theorem Records.eq (h : Records groups expression request) (h' : Records groups expression result)
    (hexpression : request.expression = result.expression) : request = result := by
  have hgiven : ∀ flag, flag ≠ .returnType → request.given flag = result.given flag := fun flag hflag =>
    (h.given flag hflag).trans (h'.given flag hflag).symm
  have hreturnType : request.returnType = result.returnType :=
    Option.ext fun kind => (h.returnType kind).trans (h'.returnType kind).symm
  cases request
  cases result
  rw [EvalRequest.mk.injEq]
  exact ⟨hexpression, hgiven .data nofun, Node.eq_of_ids (hgiven .node nofun) (hgiven .page nofun),
    hgiven .default nofun, hreturnType, hgiven .args nofun, hgiven .intro nofun⟩

theorem Records.withExpression (h : Records groups expression request) (word : String) :
    Records groups expression { request with expression := word } := by
  refine ⟨h.found, h.plain, h.node, fun flag hflag => ?_, h.kinds, h.returnType⟩
  rw [← h.given flag hflag]
  cases flag <;> rfl

/-- **What is recorded** depends on the values of each flag, and not on what stands between them. -/
theorem Records.of_values (h : Records before expression request) {expression' : Option String}
    (hfound : expressions after = expression'.toList) (hplain : ∀ word ∈ expression', looksLikeFlag word = false)
    (hvalues : ∀ flag, values flag after = values flag before) : Records after expression' request := by
  have hlast : ∀ flag, last? flag after = last? flag before := fun flag => congrArg List.getLast? (hvalues flag)
  refine ⟨hfound, hplain, ?_, fun flag hflag => ?_, ?_, ?_⟩
  · rw [hvalues, hvalues]
    exact h.node
  · rw [hlast]
    exact h.given flag hflag
  · rw [hvalues]
    exact h.kinds
  · rw [hlast]
    exact h.returnType

/-! ### One group after the others -/

/-- The request before any word is read. -/
def blank : EvalRequest := ⟨"", none, .detached, none, none, none, none⟩

theorem records_blank : Records [] none blank where
  found := rfl
  plain := nofun
  node := Nat.zero_le 1
  given flag _ := by cases flag <;> rfl
  kinds := nofun
  returnType kind := by simp [blank, last?, values]

/-- **The expression may follow** where there is none yet. -/
theorem Records.word (h : Records before none request) {word : String} (hword : looksLikeFlag word = false) :
    Records (before ++ [.expression word]) (some word) request := by
  refine h.of_values ?_ (fun w hw => ?_) fun flag => ?_
  · rw [expressions_append, h.found]
    rfl
  · cases hw
    exact hword
  · rw [values_append]
    exact List.append_nil _

/-- A flag that names a node does so where there is none. -/
theorem node_of_repeatsNode (hnode : request.repeatsNode f = false) (hf : f = .node ∨ f = .page) :
    request.node = .detached := by
  have hflag : (decide (f = .node) || decide (f = .page)) = true := by
    rcases hf with rfl | rfl <;> rfl
  rw [repeatsNode, hflag, Bool.true_and] at hnode
  exact Decidable.not_not.mp (of_decide_eq_false hnode)

/-- **Setting a flag** changes what that flag is given, and leaves the others as they are. -/
theorem given_set (hnode : request.repeatsNode f = false) (hset : request.set f value = .ok result) {wanted : Flag}
    (hwanted : wanted ≠ .returnType) :
    result.given wanted = if f = wanted then some value else request.given wanted := by
  have hdetached : f = .node ∨ f = .page → request.node = .detached := node_of_repeatsNode hnode
  cases f with
  | returnType =>
    rw [if_neg hwanted.symm]
    unfold set at hset
    dsimp only at hset
    split at hset
    · cases hset
      cases wanted <;> first | rfl | exact absurd rfl hwanted
    · cases hset
  | node =>
    cases hset
    cases wanted <;> simp [given, hdetached, Node.componentId?, Node.pageId?]
  | page =>
    cases hset
    cases wanted <;> simp [given, hdetached, Node.componentId?, Node.pageId?]
  | _ =>
    cases hset
    cases wanted <;> rfl

theorem returnType_set (hset : request.set f value = .ok result) :
    if f = .returnType then ∃ kind, Kind.parse? value = some kind ∧ result.returnType = some kind
    else result.returnType = request.returnType := by
  cases f with
  | returnType =>
    rw [if_pos rfl]
    unfold set at hset
    dsimp only at hset
    split at hset
    · rename_i kind hkind
      cases hset
      exact ⟨kind, hkind, rfl⟩
    · cases hset
  | _ =>
    cases hset
    rfl

/-- **The nodes named so far** are those of the request. -/
theorem Records.named_eq_nil (h : Records before expression request) :
    values .node before ++ values .page before = [] ↔ request.node = .detached := by
  have hcomponent : values .node before = [] ↔ request.node.componentId? = none := by
    rw [← List.getLast?_eq_none_iff]
    exact iff_of_eq (congrArg (· = none) (h.given .node nofun).symm)
  have hpage : values .page before = [] ↔ request.node.pageId? = none := by
    rw [← List.getLast?_eq_none_iff]
    exact iff_of_eq (congrArg (· = none) (h.given .page nofun).symm)
  rw [List.append_eq_nil_iff, hcomponent, hpage]
  cases request.node <;> simp [Node.componentId?, Node.pageId?]

/-- **A flag with its value may follow**, where it names no second node and the request takes its value. -/
theorem Records.flag (h : Records before expression request) (hnode : request.repeatsNode f = false)
    (hset : request.set f value = .ok result) : Records (before ++ [.flag f value]) expression result := by
  have hreturnType := returnType_set hset
  refine ⟨?_, h.plain, ?_, fun wanted hwanted => ?_, ?_, ?_⟩
  · rw [expressions_append, h.found]
    exact List.append_nil _
  · rw [values_append_flag, values_append_flag]
    by_cases hf : f = .node ∨ f = .page
    · have hnone := h.named_eq_nil.mpr (node_of_repeatsNode hnode hf)
      rw [(List.append_eq_nil_iff.mp hnone).1, (List.append_eq_nil_iff.mp hnone).2]
      rcases hf with rfl | rfl <;> exact Nat.le_refl 1
    · rw [if_neg fun heq => hf (.inl heq), if_neg fun heq => hf (.inr heq), List.append_nil, List.append_nil]
      exact h.node
  · rw [given_set hnode hset hwanted, last?_append_flag, h.given wanted hwanted]
  · rw [values_append_flag]
    intro w hw
    rcases List.mem_append.mp hw with hbefore | hlast
    · exact h.kinds w hbefore
    · split at hlast
      · rename_i hf
        rw [if_pos hf] at hreturnType
        obtain ⟨kind, hkind, -⟩ := hreturnType
        rw [List.mem_singleton.mp hlast]
        exact ⟨kind, Kind.parse?_eq_some.mp hkind⟩
      · cases hlast
  · intro kind
    rw [last?_append_flag]
    split
    · rename_i hf
      rw [if_pos hf] at hreturnType
      obtain ⟨kind', hkind, hresult⟩ := hreturnType
      rw [hresult, ← hkind, Kind.parse?_eq_some]
      simp
    · rename_i hf
      rw [if_neg hf] at hreturnType
      rw [hreturnType]
      exact h.returnType kind

/-! ### Whole command lines -/

/-- **What the parser accepts falls into groups**, which the request records along with those read before. -/
theorem records_of_parse {words : List String} (h : EvalRequest.parse expression request words = .ok result)
    (hbefore : Records before expression request) :
    ∃ after, words = spell after ∧ Records (before ++ after) (some result.expression) result := by
  fun_induction EvalRequest.parse expression request words generalizing before with
  | case1 request text =>
    cases h
    refine ⟨[], rfl, ?_⟩
    rw [List.append_nil]
    exact hbefore.withExpression text
  | case5 expression request word f hname hnode value rest request' hset ih =>
    obtain ⟨after, hwords, hafter⟩ := ih h (hbefore.flag (eq_false_of_ne_true hnode) hset)
    refine ⟨.flag f value :: after, ?_, ?_⟩
    · rw [hwords, ← Flag.name_of_ofName? hname]
      rfl
    · rw [List.append_cons]
      exact hafter
  | case9 expression request word rest hname hplain hnone ih =>
    obtain rfl : expression = none := by
      cases expression with
      | none => rfl
      | some text => exact absurd rfl hnone
    obtain ⟨after, hwords, hafter⟩ := ih h (hbefore.word (eq_false_of_ne_true hplain))
    refine ⟨.expression word :: after, ?_, ?_⟩
    · rw [hwords]
      rfl
    · rw [List.append_cons]
      exact hafter
  | case2 | case3 | case4 | case6 | case7 | case8 => cases h

/-- A line that names one node at most names none before the flag that does. -/
theorem Records.repeatsNode_eq_false (hbefore : Records before expression request)
    (hall : (values .node (before ++ .flag f value :: after) ++
      values .page (before ++ .flag f value :: after)).length ≤ 1) :
    request.repeatsNode f = false := by
  refine eq_false_of_ne_true fun hrepeats => ?_
  simp only [repeatsNode, Bool.and_eq_true, Bool.or_eq_true, decide_eq_true_eq] at hrepeats
  obtain ⟨hf, hnode⟩ := hrepeats
  have hnamed : 0 < (values .node before ++ values .page before).length :=
    List.length_pos_iff.mpr fun hnil => hnode (hbefore.named_eq_nil.mp hnil)
  simp only [values_append, values_flag, List.length_append] at hall hnamed
  rcases hf with rfl | rfl
  · simp only [if_true, List.length_singleton] at hall
    omega
  · simp only [if_true, List.length_singleton] at hall
    omega

/-- A request takes the value of a flag if, for a return type, it names a kind. -/
theorem exists_set (request : EvalRequest)
    (hkind : f = .returnType → ∃ kind : Kind, Text.sameIgnoringCase kind.name value = true) :
    ∃ result, request.set f value = .ok result := by
  cases f with
  | returnType =>
    obtain ⟨kind, hkind⟩ := hkind rfl
    refine ⟨{ request with returnType := some kind }, ?_⟩
    rw [set, Kind.parse?_eq_some.mpr hkind]
  | _ => exact ⟨_, rfl⟩

/-- **Every line that a request records is accepted**, from any point of it on, and the request is what is read. -/
theorem parse_of_records (hall : Records (before ++ after) (some result.expression) result)
    (hbefore : Records before expression request) :
    EvalRequest.parse expression request (spell after) = .ok result := by
  induction after generalizing before expression request with
  | nil =>
    rw [List.append_nil] at hall
    have hfound : expression.toList = [result.expression] := hbefore.found.symm.trans hall.found
    obtain rfl : expression = some result.expression := Option.toList_eq_singleton_iff.mp hfound
    exact congrArg Except.ok ((hbefore.withExpression result.expression).eq hall rfl)
  | cons group after ih =>
    have hnext := hall
    rw [List.append_cons] at hnext
    cases group with
    | expression word =>
      have hfound : expression.toList ++ word :: expressions after = [result.expression] := by
        rw [← hbefore.found]
        exact (expressions_append before _).symm.trans hall.found
      obtain rfl : expression = none := by
        cases expression with
        | none => rfl
        | some text => cases hfound
      obtain rfl : word = result.expression := (List.cons.inj hfound).1
      have hplain : looksLikeFlag result.expression = false := hall.plain _ rfl
      show EvalRequest.parse none request (result.expression :: spell after) = .ok result
      rw [EvalRequest.parse, Flag.ofName?_eq_none hplain]
      dsimp only
      rw [if_neg (ne_true_of_eq_false hplain), Option.isSome_none, if_neg Bool.false_ne_true]
      exact ih hnext (hbefore.word hplain)
    | flag f value =>
      have hnode : request.repeatsNode f = false := hbefore.repeatsNode_eq_false hall.node
      obtain ⟨request', hset⟩ : ∃ request', request.set f value = .ok request' := by
        refine request.exists_set fun hf => hall.kinds value ?_
        rw [values_append, values_flag, if_pos hf]
        exact List.mem_append_right _ List.mem_cons_self
      show EvalRequest.parse expression request (f.name :: value :: spell after) = .ok result
      rw [EvalRequest.parse, Flag.ofName?_name]
      dsimp only
      rw [if_neg (ne_true_of_eq_false hnode), hset]
      exact ih hnext (hbefore.flag hnode hset)

/-- **A reordering that keeps the order of the values of each flag** is recorded alike. -/
theorem Records.perm (h : Records before expression request) (hperm : after.Perm before)
    (hvalues : ∀ flag, values flag after = values flag before) : Records after expression request := by
  refine h.of_values ?_ h.plain hvalues
  have hexpressions : (expressions after).Perm expression.toList := h.found ▸ hperm.filterMap _
  cases expression with
  | none => exact List.perm_nil.mp hexpressions
  | some text => exact List.perm_singleton.mp hexpressions

theorem values_toGroups (request : EvalRequest) (flag : Flag) :
    values flag request.toGroups = (request.given flag).toList := by
  have hone : ∀ f, values flag ((request.given f).map (.flag f)).toList =
      if f = flag then (request.given f).toList else [] := by
    intro f
    cases request.given f with
    | none => exact (ite_self _).symm
    | some value => exact (values_flag f flag value []).trans (List.append_nil _)
  have hall : values flag request.toGroups =
      Flag.all.flatMap fun f => if f = flag then (request.given f).toList else [] := by
    rw [← funext hone]
    exact List.filterMap_flatMap
  rw [hall]
  cases flag <;> simp [Flag.all]

/-- **A request is recorded from the groups that it is written with.** -/
theorem records_toGroups (h : looksLikeFlag request.expression = false) :
    Records request.toGroups (some request.expression) request := by
  have hlast : ∀ flag, last? flag request.toGroups = request.given flag := fun flag => by
    rw [last?, values_toGroups]
    cases request.given flag <;> rfl
  have hexpressions : expressions request.toGroups = [request.expression] := by
    have hflags : expressions (Flag.all.flatMap fun flag => ((request.given flag).map (.flag flag)).toList) = [] := by
      rw [expressions, List.filterMap_eq_nil_iff]
      intro group hgroup
      obtain ⟨flag, -, hflag⟩ := List.mem_flatMap.mp hgroup
      obtain ⟨value, -, rfl⟩ := Option.map_eq_some_iff.mp (Option.mem_toList.mp hflag)
      rfl
    exact congrArg (request.expression :: ·) hflags
  refine ⟨hexpressions, fun word hword => ?_, ?_, fun flag _ => (hlast flag).symm, ?_, fun kind => ?_⟩
  · cases hword
    exact h
  · rw [values_toGroups, values_toGroups, given, given]
    cases request.node <;> exact Nat.le_of_ble_eq_true rfl
  · rw [values_toGroups, given]
    intro value hvalue
    obtain ⟨kind, -, rfl⟩ := Option.map_eq_some_iff.mp (Option.mem_toList.mp hvalue)
    exact ⟨kind, decide_eq_true rfl⟩
  · rw [hlast, given]
    constructor
    · intro hkind
      exact ⟨kind.name, by rw [hkind, Option.map_some], decide_eq_true rfl⟩
    · rintro ⟨value, hvalue, hname⟩
      obtain ⟨kind', hkind', rfl⟩ := Option.map_eq_some_iff.mp hvalue
      rw [hkind', Kind.eq_of_sameName hname]

/-- The groups of a request have one value a flag, so that any order keeps the values of each. -/
theorem values_of_perm_toGroups (h : groups.Perm request.toGroups) (flag : Flag) :
    values flag groups = values flag request.toGroups := by
  have hvalues : (values flag groups).Perm (values flag request.toGroups) := h.filterMap _
  rw [values_toGroups] at hvalues ⊢
  cases hgiven : request.given flag with
  | none =>
    rw [hgiven] at hvalues
    exact List.perm_nil.mp hvalues
  | some value =>
    rw [hgiven] at hvalues
    exact List.perm_singleton.mp hvalues

/-- **A line is accepted exactly when its groups are recorded.** -/
theorem parse_eq_ok {words : List String} :
    EvalRequest.parse none blank words = .ok request ↔
      ∃ groups, words = spell groups ∧ Records groups (some request.expression) request := by
  constructor
  · intro h
    exact records_of_parse h records_blank
  · rintro ⟨groups, rfl, hgroups⟩
    have hall : Records ([] ++ groups) (some request.expression) request := hgroups
    exact parse_of_records hall records_blank

end EvalRequest

/-- **The grammar of an evaluation's command line.**  The words after `eval` are accepted exactly when they fall into
groups that a request records, and the command is that request.  Groups may change places, as long as the values of each
flag stay in their order; and a request whose expression does not look like a flag is read back from its groups in any
order. -/
theorem Command.parse_eval :
    (∀ words command, Command.parse ("eval" :: words) = .ok command ↔
      ∃ groups request, words = spell groups ∧ EvalRequest.Records groups (some request.expression) request ∧
        command = .eval request) ∧
      (∀ groups groups' request, EvalRequest.Records groups (some request.expression) request → groups'.Perm groups →
        (∀ flag, values flag groups' = values flag groups) →
          Command.parse ("eval" :: spell groups') = Command.parse ("eval" :: spell groups)) ∧
      ∀ request groups, looksLikeFlag request.expression = false → groups.Perm request.toGroups →
        Command.parse ("eval" :: spell groups) = .ok (.eval request) := by
  have hmap : ∀ words, Command.parse ("eval" :: words) = (EvalRequest.parse none .blank words).map .eval := fun _ => rfl
  have hrecorded : ∀ groups request, EvalRequest.Records groups (some request.expression) request →
      Command.parse ("eval" :: spell groups) = .ok (.eval request) := fun groups request h => by
    rw [hmap, EvalRequest.parse_eq_ok.mpr ⟨groups, rfl, h⟩]
    rfl
  refine ⟨fun words command => ⟨fun h => ?_, ?_⟩, fun groups groups' request h hperm hvalues => ?_,
    fun request groups hplain hperm => ?_⟩
  · cases hparse : EvalRequest.parse none .blank words with
    | ok request =>
      rw [hmap, hparse] at h
      obtain ⟨groups, hwords, hgroups⟩ := EvalRequest.parse_eq_ok.mp hparse
      exact ⟨groups, request, hwords, hgroups, (Except.ok.inj h).symm⟩
    | error e =>
      rw [hmap, hparse] at h
      cases h
  · rintro ⟨groups, request, rfl, hgroups, rfl⟩
    exact hrecorded groups request hgroups
  · rw [hrecorded groups request h, hrecorded groups' request (h.perm hperm hvalues)]
  · have hvalues := EvalRequest.values_of_perm_toGroups hperm
    exact hrecorded groups request ((EvalRequest.records_toGroups hplain).perm hperm hvalues)

/-- A default given twice, with the expression moved behind it; and a request whose data look like a flag, in the
reverse of the order that it is written in. -/
theorem Command.parse_eval_repeated :
    let request : EvalRequest := ⟨"[]", some "--node", .component "a", none, some .number, none, none⟩
    Command.parse ["eval", "--default", "1", "--default", "2", "[]"] =
        Command.parse ["eval", "--default", "1", "[]", "--default", "2"] ∧
      Command.parse ["eval", "--return-type", "number", "--node", "a", "--data", "--node", "[]"] =
        .ok (.eval request) := by
  intro request
  let first : List WordGroup := [.flag .default "1", .expression "[]", .flag .default "2"]
  let last : List WordGroup := [.flag .default "1", .flag .default "2", .expression "[]"]
  let twice : EvalRequest := ⟨"[]", none, .detached, some "2", none, none, none⟩
  have hrecords : EvalRequest.Records first (some twice.expression) twice :=
    ⟨rfl, fun word hword => by cases hword; decide, by decide, fun flag _ => by cases flag <;> rfl, nofun,
      fun kind => by simp [first, last?, values, WordGroup.value?]⟩
  have hperm : last.Perm first := .cons _ (.swap _ _ [])
  have hvalues : ∀ flag, values flag last = values flag first := by
    intro flag
    cases flag <;> rfl
  have hplain : looksLikeFlag request.expression = false := by decide
  obtain ⟨-, hreorder, hrender⟩ := Command.parse_eval
  exact ⟨hreorder first last twice hrecords hperm hvalues,
    hrender request _ hplain (List.reverse_perm request.toGroups)⟩

end FormLogic
