import BlockBridge.Config.Document
import BlockBridge.Counters.Document
import BlockBridge.Proofs.Json.Members
import BlockBridge.Proofs.Json.Writing

/-!
# Documents read back

A configuration or a set of counters is written as an object with its values under its
names, so it is found again under the same names (`Json.fields?_zip`), and the text is
read as that object (`Json.parse_write`).  Whether a configuration that was read is
usable depends on its values only (`Config.validate_eq`).

Main statement: every configuration and all counters of 64 bits read back from what is
written of them, and a configuration is turned down for the first rule that it breaks
(`documents_read_back`).
-/

namespace BlockBridge

/-- Whether two texts are the same but for the case of ASCII letters. -/
def Text.SameLetters (text other : String) : Prop :=
  text.toList.map Char.toUpper = other.toList.map Char.toUpper

instance (text other : String) : Decidable (Text.SameLetters text other) :=
  inferInstanceAs (Decidable (_ = _))

namespace Json

/-! ## Objects -/

theorem proper_memberTokens {members : List (Literal × Json)}
    (h : ∀ member ∈ members, ∀ token ∈ member.2.tokens, token.Proper) :
    ∀ token ∈ memberTokens members, token.Proper := by
  induction members with
  | nil => simp [memberTokens]
  | cons member members ih =>
    obtain ⟨key, value⟩ := member
    obtain ⟨hvalue, hrest⟩ := List.forall_mem_cons.mp h
    intro token htoken
    cases members with
    | nil =>
      simp only [memberTokens, List.mem_cons] at htoken
      rcases htoken with rfl | rfl | htoken
      · trivial
      · trivial
      · exact hvalue token htoken
    | cons next members =>
      rw [memberTokens_cons key value (by simp)] at htoken
      simp only [List.mem_cons, List.mem_append] at htoken
      rcases htoken with rfl | rfl | htoken | rfl | htoken
      · trivial
      · trivial
      · exact hvalue token htoken
      · trivial
      · exact ih hrest token htoken

/-- An object reads back from what is written of it, if its values can be written. -/
theorem parse_write_object {members : List (Literal × Json)}
    (h : ∀ member ∈ members, ∀ token ∈ member.2.tokens, token.Proper) :
    parse (object members).write = some (object members) := by
  refine parse_write fun token htoken => ?_
  simp only [tokens, List.mem_cons, List.mem_append, List.not_mem_nil, or_false] at htoken
  rcases htoken with rfl | htoken | rfl
  · trivial
  · exact proper_memberTokens h token htoken
  · trivial

theorem proper_ofNat (n : Nat) : ∀ token ∈ (ofNat n).tokens, token.Proper := by
  intro token htoken
  obtain rfl := List.mem_singleton.mp htoken
  exact isNumeral_toDigits n

/-! ## Counters -/

theorem counters?_ofCounters (names : List String) (hnames : names.Nodup) {values : List Nat}
    (hlength : values.length = names.length) (hvalues : ∀ n ∈ values, n < UInt64.size) :
    (ofCounters names values).counters? names = some values := by
  have hread : (values.map fun n => some (ofNat n)).mapM
      (fun value => value.bind (·.toNatBelow? UInt64.size)) = some values := by
    clear hlength
    induction values with
    | nil => rfl
    | cons n values ih =>
      obtain ⟨hn, hrest⟩ := List.forall_mem_cons.mp hvalues
      rw [List.map_cons, List.mapM_cons, ih hrest, Option.bind_some, toNatBelow?_ofNat, if_pos hn]
      rfl
  have hfields : (ofCounters names values).fields? names =
      some (values.map fun n => some (ofNat n)) := by
    rw [ofCounters, fields?_zip hnames (by simp [hlength]), fields?, if_pos (by simp [hlength])]
    simp [hlength]
  rw [counters?, hfields, Option.bind_some, hread]

theorem parse_write_ofCounters (names : List String) (values : List Nat) :
    parse (ofCounters names values).write = some (ofCounters names values) := by
  refine parse_write_object fun member hmember => ?_
  obtain ⟨n, _, heq⟩ := List.mem_map.mp (List.of_mem_zip hmember).2
  rw [← heq]
  exact proper_ofNat n

end Json

namespace ClientCounters

theorem parse_write {c : ClientCounters}
    (h : ∀ n ∈ [c.requestsSent, c.completed, c.storageFaults, c.timeouts, c.staleDropped,
      c.malformedDropped, c.unexpectedDropped], n < UInt64.size) :
    parse c.write = some c := by
  have hcounters := Json.counters?_ofCounters fieldNames (by decide) rfl h
  simp [parse, write, Json.parse_write_ofCounters, hcounters]

end ClientCounters

namespace ServerCounters

theorem parse_write {c : ServerCounters}
    (h : ∀ n ∈ [c.reads, c.writes, c.ioFailures, c.outOfRange, c.malformedDropped,
      c.unexpectedDropped], n < UInt64.size) :
    parse c.write = some c := by
  have hcounters := Json.counters?_ofCounters fieldNames (by decide) rfl h
  simp [parse, write, Json.parse_write_ofCounters, hcounters]

end ServerCounters

/-! ## Configurations -/

namespace Config

/-- The names of the console's verbosities. -/
def levelNames : List String := ["off", "error", "warn", "info", "debug", "trace"]

theorem nodup_fieldNames : fieldNames.Nodup := by decide

theorem parse_toJson (config : Config) : Json.parse config.write = some config.toJson := by
  refine Json.parse_write_object fun member hmember => ?_
  have hvalue := (List.of_mem_zip hmember).2
  simp only [List.mem_cons, List.not_mem_nil, or_false] at hvalue
  rcases hvalue with heq | heq | heq | heq | heq <;> rw [heq]
  · exact Json.proper_ofNat _
  · exact Json.proper_ofNat _
  · exact Json.proper_ofNat _
  · simp [Json.tokens, Json.Token.Proper]
  · simp [Json.tokens, Json.Token.Proper]

theorem ofJson?_toJson (config : Config) : ofJson? config.toJson = some config := by
  have hfields : config.toJson.fields? fieldNames =
      some [some (.ofNat config.blockCount.toNat), some (.ofNat config.responseTimeoutMs.toNat),
        some (.ofNat config.maxInFlight.toNat), some (.bool config.traceBlocks),
        some (.string (some config.logLevel))] := by
    rw [toJson, Json.fields?_zip nodup_fieldNames (by simp [fieldNames])]
    rfl
  simp [ofJson?, hfields, setting, Json.toUInt32?_ofNat, Json.toUInt8?_ofNat, Json.toBool?,
    Json.toText?]

theorem read?_write (config : Config) : read? config.write = some config := by
  rw [read?, parse_toJson, Option.bind_some, ofJson?_toJson]

theorem verbosity?_isSome_iff (config : Config) :
    config.verbosity?.isSome = true ↔
      ∃ name ∈ levelNames, Text.SameLetters config.logLevel name := by
  have hupper : Verbosity.all.map (·.name.toList) =
      levelNames.map fun name => name.toList.map Char.toUpper := by decide
  have hfound : config.verbosity?.isSome = true ↔
      config.logLevel.toList.map Char.toUpper ∈ Verbosity.all.map (·.name.toList) := by
    simp [verbosity?, Verbosity.ofName?, List.find?_isSome]
  rw [hfound, hupper, List.mem_map]
  exact exists_congr fun name => and_congr_right fun _ => eq_comm

/-- A configuration is turned down for the first rule that it breaks. -/
theorem validate_eq (config : Config) :
    config.validate =
      if ¬0 < config.blockCount then .error (.invalid .blockCountPositive)
      else if ¬0 < config.responseTimeoutMs then .error (.invalid .timeoutPositive)
      else if ¬(1 ≤ config.maxInFlight ∧ config.maxInFlight ≤ 8) then
        .error (.invalid .inFlightBounded)
      else if ¬∃ name ∈ levelNames, Text.SameLetters config.logLevel name then
        .error (.invalid .logLevelKnown)
      else .ok () := by
  have hbound : config.maxInFlight.toNat ≤ Pending.maxInFlight ↔ config.maxInFlight ≤ 8 :=
    (UInt8.le_iff_toNat_le (b := 8)).symm
  simp only [← verbosity?_isSome_iff]
  unfold validate rules
  by_cases hblocks : 0 < config.blockCount
  · by_cases htimeout : 0 < config.responseTimeoutMs
    · by_cases hflight : 1 ≤ config.maxInFlight ∧ config.maxInFlight ≤ 8
      · by_cases hlevel : config.verbosity?.isSome = true
        · simp [meets, hblocks, htimeout, hbound, hflight, hlevel]
        · simp [meets, hblocks, htimeout, hbound, hflight, hlevel]
      · simp [meets, hblocks, htimeout, hbound, hflight]
    · simp [meets, hblocks, htimeout]
  · simp [meets, hblocks]

end Config

/-- Every configuration reads back from what is written of it, whatever its texts hold.
It is accepted if its blocks and its timeout are not zero, 1 to 8 requests may be in
flight, and its log level is known whatever the case of its letters; otherwise it is
turned down for the first of these rules that it breaks.  The counters of both sides read
back as well, as long as they are those of 64-bit words. -/
theorem documents_read_back :
    (∀ config : Config, Config.read? config.write = some config ∧
      Config.parse config.write =
        if ¬0 < config.blockCount then .error (.invalid .blockCountPositive)
        else if ¬0 < config.responseTimeoutMs then .error (.invalid .timeoutPositive)
        else if ¬(1 ≤ config.maxInFlight ∧ config.maxInFlight ≤ 8) then
          .error (.invalid .inFlightBounded)
        else if ¬∃ name ∈ Config.levelNames, Text.SameLetters config.logLevel name then
          .error (.invalid .logLevelKnown)
        else .ok config) ∧
    (∀ requestsSent completed storageFaults timeouts staleDropped malformedDropped
        unexpectedDropped : UInt64,
      let counters : ClientCounters :=
        { requestsSent := requestsSent.toNat, completed := completed.toNat,
          storageFaults := storageFaults.toNat, timeouts := timeouts.toNat,
          staleDropped := staleDropped.toNat, malformedDropped := malformedDropped.toNat,
          unexpectedDropped := unexpectedDropped.toNat }
      ClientCounters.parse counters.write = some counters) ∧
    ∀ reads writes ioFailures outOfRange malformedDropped unexpectedDropped : UInt64,
      let counters : ServerCounters :=
        { reads := reads.toNat, writes := writes.toNat, ioFailures := ioFailures.toNat,
          outOfRange := outOfRange.toNat, malformedDropped := malformedDropped.toNat,
          unexpectedDropped := unexpectedDropped.toNat }
      ServerCounters.parse counters.write = some counters := by
  refine ⟨fun config => ⟨config.read?_write, ?_⟩, ?_, ?_⟩
  · have hread := config.read?_write
    rw [Config.parse, hread]
    simp only [config.validate_eq]
    split_ifs <;> rfl
  · intro requestsSent completed storageFaults timeouts staleDropped malformedDropped
      unexpectedDropped counters
    exact ClientCounters.parse_write (by simp [counters, UInt64.toNat_lt_size])
  · intro reads writes ioFailures outOfRange malformedDropped unexpectedDropped counters
    exact ServerCounters.parse_write (by simp [counters, UInt64.toNat_lt_size])

end BlockBridge
