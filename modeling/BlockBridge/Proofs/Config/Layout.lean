import BlockBridge.Config.Document
import BlockBridge.Proofs.Json.Members
import BlockBridge.Proofs.Json.Parsing

/-!
# The layout of a configuration

What a configuration text gives depends on the values of its settings alone.  Under each
name the reader settles for one value, the default if there is none
(`Config.valueOf`), and these values decide about the configuration
(`Config.ofJson?_object`).  The order of the members, members of other names and defaults
written out leave them as they are.

Main statement: `Config.layout_is_free`.
-/

namespace BlockBridge
namespace Config

open Json (Literal Legible lookup)

/-- The members that a configuration is written with. -/
def members (config : Config) : List (Literal × Json) :=
  List.zip (fieldNames.map some)
    [.ofNat config.blockCount.toNat, .ofNat config.responseTimeoutMs.toNat,
      .ofNat config.maxInFlight.toNat, .bool config.traceBlocks, .string (some config.logLevel)]

/-- They are the members of what is written. -/
theorem toJson_eq (config : Config) : config.toJson = .object config.members := rfl

/-- How the default of a setting is written. -/
def defaultOf (name : String) : Json :=
  match lookup name ({} : Config).members with
  | some (some value) => value
  | _ => .null

theorem mem_members_default {member : Literal × Json} (h : member ∈ ({} : Config).members) :
    ∃ name ∈ fieldNames, member = (some name, defaultOf name) := by
  simp only [members, fieldNames, List.map_cons, List.map_nil, List.zip_cons_cons,
    List.zip_nil_right, List.mem_cons, List.not_mem_nil, or_false] at h
  rcases h with rfl | rfl | rfl | rfl | rfl
  · exact ⟨"block_count", by decide, rfl⟩
  · exact ⟨"response_timeout_ms", by decide, rfl⟩
  · exact ⟨"max_in_flight", by decide, rfl⟩
  · exact ⟨"trace_blocks", by decide, rfl⟩
  · exact ⟨"log_level", by decide, rfl⟩

/-! ## The values that decide -/

/-- The value that a setting is read from: the one that is given, or else its default.
There is none if several are given. -/
def valueOf (members : List (Literal × Json)) (name : String) : Option Json :=
  (lookup name members).map fun value => value.getD (defaultOf name)

/-- A default that is left out is read as if it were written. -/
theorem setting_eq {α : Type} {read : Json → Option α} {default : α} {written : Json}
    (h : read written = some default) (value : Option Json) :
    setting read default value = read (value.getD written) := by
  cases value with
  | none => exact h.symm
  | some value => rfl

theorem ofJson?_object (members : List (Literal × Json)) :
    ofJson? (.object members) =
      if Legible members then do
        let blockCount ← valueOf members "block_count"
        let responseTimeoutMs ← valueOf members "response_timeout_ms"
        let maxInFlight ← valueOf members "max_in_flight"
        let traceBlocks ← valueOf members "trace_blocks"
        let logLevel ← valueOf members "log_level"
        return {
          blockCount := ← blockCount.toUInt32?
          responseTimeoutMs := ← responseTimeoutMs.toUInt32?
          maxInFlight := ← maxInFlight.toUInt8?
          traceBlocks := ← traceBlocks.toBool?
          logLevel := ← logLevel.toText? }
      else none := by
  have hcount : (defaultOf "block_count").toUInt32? = some 8192 := by rfl
  have htimeout : (defaultOf "response_timeout_ms").toUInt32? = some 5000 := by rfl
  have hflight : (defaultOf "max_in_flight").toUInt8? = some 8 := by rfl
  have htrace : (defaultOf "trace_blocks").toBool? = some false := by rfl
  have hlevel : (defaultOf "log_level").toText? = some "info" := by rfl
  rw [ofJson?, Json.fields?_object]
  by_cases hlegible : Legible members = true
  · rw [if_pos hlegible, if_pos hlegible]
    simp only [fieldNames, List.mapM_cons, List.mapM_nil, valueOf]
    cases lookup "block_count" members with
    | none => rfl
    | some blockCount =>
    cases lookup "response_timeout_ms" members with
    | none => rfl
    | some responseTimeoutMs =>
    cases lookup "max_in_flight" members with
    | none => rfl
    | some maxInFlight =>
    cases lookup "trace_blocks" members with
    | none => rfl
    | some traceBlocks =>
    cases lookup "log_level" members with
    | none => rfl
    | some logLevel =>
    simp [setting_eq hcount, setting_eq htimeout, setting_eq hflight, setting_eq htrace,
      setting_eq hlevel]
  · rw [if_neg hlegible, if_neg hlegible]
    rfl

theorem ofJson?_congr {members others : List (Literal × Json)}
    (hlegible : Legible members = Legible others)
    (hvalue : ∀ name ∈ fieldNames, valueOf members name = valueOf others name) :
    ofJson? (.object members) = ofJson? (.object others) := by
  rw [ofJson?_object, ofJson?_object, hlegible]
  simp only [hvalue _ (show "block_count" ∈ fieldNames by decide),
    hvalue _ (show "response_timeout_ms" ∈ fieldNames by decide),
    hvalue _ (show "max_in_flight" ∈ fieldNames by decide),
    hvalue _ (show "trace_blocks" ∈ fieldNames by decide),
    hvalue _ (show "log_level" ∈ fieldNames by decide)]

/-! ## What does not matter -/

theorem ofJson?_of_perm {members others : List (Literal × Json)} (h : members.Perm others) :
    ofJson? (.object members) = ofJson? (.object others) := by
  refine ofJson?_congr h.all_eq fun name _ => ?_
  rw [valueOf, valueOf, Json.lookup_of_perm h]

theorem ofJson?_of_padded {members padded : List (Literal × Json)}
    (h : Json.Padded fieldNames members padded) :
    ofJson? (.object padded) = ofJson? (.object members) := by
  refine ofJson?_congr h.legible_eq fun name hname => ?_
  rw [valueOf, valueOf, h.lookup_eq hname]

theorem ofJson?_of_default {before after : List (Literal × Json)} {member : Literal × Json}
    (hdefault : member ∈ ({} : Config).members)
    (habsent : member.1 ∉ (before ++ after).map Prod.fst) :
    ofJson? (.object (before ++ member :: after)) = ofJson? (.object (before ++ after)) := by
  obtain ⟨name, _, rfl⟩ := mem_members_default hdefault
  rw [ofJson?_of_perm List.perm_middle]
  refine ofJson?_congr rfl fun other _ => ?_
  by_cases hname : other = name
  · subst hname
    rw [valueOf, valueOf, Json.lookup_cons_self _ habsent, Json.lookup_of_absent habsent]
    rfl
  · rw [valueOf, valueOf, Json.lookup_cons_of_ne fun heq => hname (Option.some.inj heq).symm]

theorem ofJson?_of_order {values : List Json} (h : values.length ≤ fieldNames.length) :
    ofJson? (.object (List.zip (fieldNames.map some) values)) = ofJson? (.array values) := by
  rw [ofJson?, ofJson?, Json.fields?_zip (by decide) h]

theorem ofJson?_of_repeated {members : List (Literal × Json)} {name : String}
    (hname : name ∈ fieldNames) (h : 2 ≤ (members.map Prod.fst).count (some name)) :
    ofJson? (.object members) = none := by
  rw [ofJson?, Json.fields?_of_repeated hname h]
  rfl

/-! ## Texts -/

theorem read?_of_spells {value : Json} {text : String} (h : value.Spells text) :
    read? text = ofJson? value := by
  rw [read?, (Json.parse_eq_some_iff text value).mpr h, Option.bind_some]

theorem parse_congr {text other : String} (h : read? text = read? other) :
    parse text = parse other := by
  rw [parse, parse, h]

/-- How a configuration is laid out does not matter.  Blanks may stand between any two
tokens, the members may come in any order, and members of other names may stand between
them, with any values.  A default may be written or left out, and the first few values may
stand in an array, in the order of the fields.  But a field that occurs twice among the
members makes the text unreadable; members of other names alone give the defaults,
however often each of them occurs and whatever is in them. -/
theorem layout_is_free :
    (∀ tokens (text other : String), Json.Token.Laid tokens text.toList →
      Json.Token.Laid tokens other.toList → parse text = parse other) ∧
    (∀ before others text other, (Json.object before).Spells text →
      (Json.object others).Spells other →
        before.Perm others ∨ Json.Padded fieldNames before others → parse text = parse other) ∧
    (∀ before after text other, ∀ member ∈ ({} : Config).members,
      member.1 ∉ (before ++ after).map Prod.fst →
        (Json.object (before ++ after)).Spells text →
          (Json.object (before ++ member :: after)).Spells other → parse text = parse other) ∧
    (∀ values text other, values.length ≤ fieldNames.length →
      (Json.array values).Spells text →
        (Json.object (List.zip (fieldNames.map some) values)).Spells other →
          parse text = parse other) ∧
    (∀ among text, ∀ name ∈ fieldNames, 2 ≤ (among.map Prod.fst).count (some name) →
      (Json.object among).Spells text → parse text = .error .unparseable) ∧
    ∀ among text, Json.Padded fieldNames [] among → (Json.object among).Spells text →
      parse text = .ok {} := by
  refine ⟨?_, ?_, ?_, ?_, ?_, ?_⟩
  · intro tokens text other htext hother
    have hparse : Json.parse text = Json.parse other := by
      rw [Json.parse, Json.parse, (Json.Token.scan_eq_some_iff _ _).mpr htext,
        (Json.Token.scan_eq_some_iff _ _).mpr hother]
    exact parse_congr (by rw [read?, read?, hparse])
  · intro before others text other htext hother hsame
    refine parse_congr ?_
    rw [read?_of_spells htext, read?_of_spells hother]
    rcases hsame with hperm | hpadded
    · exact ofJson?_of_perm hperm
    · exact (ofJson?_of_padded hpadded).symm
  · intro before after text other member hdefault habsent htext hother
    refine parse_congr ?_
    rw [read?_of_spells htext, read?_of_spells hother, ofJson?_of_default hdefault habsent]
  · intro values text other hlength htext hother
    refine parse_congr ?_
    rw [read?_of_spells htext, read?_of_spells hother, ofJson?_of_order hlength]
  · intro among text name hname hrepeated htext
    have hread : read? text = none := by
      rw [read?_of_spells htext, ofJson?_of_repeated hname hrepeated]
    rw [parse, hread]
  · intro among text hpadded htext
    have hread : read? text = some {} := by
      rw [read?_of_spells htext, ofJson?_of_padded hpadded]
      rfl
    have hvalid : ({} : Config).validate = .ok () := by rfl
    rw [parse, hread]
    simp only [hvalid]

/-- Sixteen blocks, in several layouts. -/
theorem layout_is_free_sixteen_blocks :
    let plain := "\x7b\"block_count\":16,\"log_level\":\"warn\"\x7d"
    parse plain = parse " \x7b \"block_count\" : 16 , \"log_level\" : \"warn\" \x7d " ∧
    parse plain = parse "\x7b\"log_level\":\"warn\",\"block_count\":16\x7d" ∧
    parse plain =
      parse "\x7b\"a\":[\x7b\"block_count\":0\x7d],\"block_count\":16,\"a\":1,\"log_level\":\"warn\"\x7d" ∧
    parse plain =
      parse "\x7b\"block_count\":16,\"trace_blocks\":false,\"log_level\":\"warn\"\x7d" ∧
    parse "[16,5000]" = parse "\x7b\"block_count\":16,\"response_timeout_ms\":5000\x7d" ∧
    parse "\x7b\"block_count\":16,\"a\":0,\"block_count\":16\x7d" = .error .unparseable ∧
    parse "\x7b\"a\":0,\"a\":1\x7d" = .ok {} := by
  obtain ⟨hblanks, hmembers, hdefault, horder, hrepeated, hothers⟩ := layout_is_free
  have spells {text : String} {value : Json} (h : Json.parse text = some value) :
      value.Spells text := (Json.parse_eq_some_iff text value).mp h
  have hplain : (Json.object [(some "block_count", .number ['1', '6']),
      (some "log_level", .string (some "warn"))]).Spells
        "\x7b\"block_count\":16,\"log_level\":\"warn\"\x7d" := spells (by rfl)
  intro plain
  refine ⟨?_, ?_, ?_, ?_, ?_, ?_, ?_⟩
  · exact hblanks _ _ _ hplain ((Json.Token.scan_eq_some_iff _ _).mp (by rfl))
  · exact hmembers _ _ _ _ hplain (spells (by rfl)) (.inl (.swap _ _ []))
  · refine hmembers _ _ _ _ hplain (spells (by rfl)) (.inr ?_)
    exact .put _ (by decide) (.kept _ (.put _ (by decide) (.kept _ .nil)))
  · exact hdefault [(some "block_count", .number ['1', '6'])]
      [(some "log_level", .string (some "warn"))] _ _ (some "trace_blocks", .bool false)
      (by simp [members, fieldNames]) (by decide) hplain (spells (by rfl))
  · exact horder [.number ['1', '6'], .number ['5', '0', '0', '0']] _ _ (by decide)
      (spells (by rfl)) (spells (by rfl))
  · exact hrepeated [(some "block_count", .number ['1', '6']), (some "a", .number ['0']),
      (some "block_count", .number ['1', '6'])] _ "block_count" (by decide) (by decide)
      (spells (by rfl))
  · exact hothers [(some "a", .number ['0']), (some "a", .number ['1'])] _
      (.put _ (by decide) (.put _ (by decide) .nil)) (spells (by rfl))

end Config
end BlockBridge
