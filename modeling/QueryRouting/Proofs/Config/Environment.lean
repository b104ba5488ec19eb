import QueryRouting.Config.Environment
import QueryRouting.Proofs.Consistency
import QueryRouting.Proofs.Text.Numeral
import QueryRouting.Proofs.Text.Utf8

/-!
# Writing a configuration back

A configuration that is read from variables can be written as variables: the datacenter as it is,
the number of hosts in decimal, the level in any spelling of its name, and the flag as the word for
it.  Reading such variables gives the configuration again.  It holds for every configuration whose
datacenter, if it has one, is a trimmed text, and these are the configurations that are read.

## Main definitions

* `Config.Normal` — the datacenter is a trimmed text that is not empty.
* `Config.WrittenIn` — variables that a configuration may be written as.
* `Config.toEnvironment` — the plainest of them.

## Main results

* `Config.load_of_not_spells`, `Config.events_load_eq_nil_iff` — what is reported while variables
  are read.
* `Config.ofEnvironment_of_writtenIn` — a normal configuration is read from where it is written.
* `Config.exists_ofEnvironment_eq_iff` — the configurations that are read are the normal ones.
* `Config.ofEnvironment_normalises` — each field is read from its own variable, and what is read
  is normal and is read again.
-/

namespace QueryRouting

/-! ### Texts of variables -/

namespace Environment

variable {env env' : Environment} {name s : String}

theorem text?_congr (h : env name = env' name) : env.text? name = env'.text? name := by
  rw [text?, text?, h]

theorem text?_of_encode (h : env name = some (Utf8.encode s)) : env.text? name = some s := by
  rw [text?, h]
  simp [Utf8.decode_encode, Except.toOption]

theorem text?_of_none (h : env name = none) : env.text? name = none := by
  rw [text?, h]
  rfl

end Environment

namespace Config

variable {c : Config} {env : Environment}

/-- A datacenter is named by a text that is not empty and has no blanks at its ends. -/
def Normal (c : Config) : Prop :=
  ∀ dc, c.localDatacenter = some dc → dc ≠ "" ∧ Blank.Trimmed dc.toList

/-- Variables that a configuration may be written as. -/
structure WrittenIn (c : Config) (env : Environment) : Prop where
  datacenter : env "STRATA_LOCAL_DC" = c.localDatacenter.map Utf8.encode
  hosts : env "STRATA_REMOTE_DC_HOSTS" = some (Utf8.encode (toString c.remoteHosts.toNat))
  level : ∃ s, c.defaultLevel.Spells s ∧ env "STRATA_CONSISTENCY" = some (Utf8.encode s)
  flag : env "STRATA_PARTITION_AWARE" = some (Utf8.encode (toString c.partitionAware))

/-- The variables with the name of the level as it is. -/
def toEnvironment (c : Config) : Environment
  | "STRATA_LOCAL_DC" => c.localDatacenter.map Utf8.encode
  | "STRATA_REMOTE_DC_HOSTS" => some (Utf8.encode (toString c.remoteHosts.toNat))
  | "STRATA_CONSISTENCY" => some (Utf8.encode c.defaultLevel.name)
  | "STRATA_PARTITION_AWARE" => some (Utf8.encode (toString c.partitionAware))
  | _ => none

theorem writtenIn_toEnvironment (c : Config) : c.WrittenIn c.toEnvironment where
  datacenter := rfl
  hosts := rfl
  level := ⟨c.defaultLevel.name, c.defaultLevel.spells_name, rfl⟩
  flag := rfl

/-! ### Settings -/

/-- A datacenter that a text names is trimmed and not empty. -/
theorem normal_ofEnvironment (env : Environment) : (ofEnvironment env).Normal := by
  intro dc hdc
  obtain ⟨s, -, hs⟩ := Option.bind_eq_some_iff.mp hdc
  rw [datacenterOfText?] at hs
  split at hs
  · contradiction
  · next hne =>
    cases hs
    refine ⟨hne, ?_⟩
    rw [Blank.trim, String.toList_ofList]
    exact Blank.trimmed_trimChars s.toList

theorem datacenterOfText?_of_trimmed {dc : String} (hne : dc ≠ "") (h : Blank.Trimmed dc.toList) :
    datacenterOfText? dc = some dc := by
  have htrim : Blank.trim dc = dc := by
    rw [Blank.trim, h.trimChars_eq, String.ofList_toList]
  rw [datacenterOfText?, htrim, if_neg hne]

theorem hostsOfText_toString (hosts : UInt64) : hostsOfText (toString hosts.toNat) = hosts := by
  have hfits : hosts.toNat < Numeral.wordCount := hosts.toNat_lt
  rw [hostsOfText, Numeral.readWord64?_toString hfits]
  exact UInt64.ofNat_toNat

theorem levelOfText_of_spells {level : Consistency} {s : String} (h : level.Spells s) :
    levelOfText s = level := by
  rw [levelOfText, Consistency.parse_eq_ok_iff.mpr h]
  rfl

theorem flagOfText_toString (flag : Bool) : flagOfText (toString flag) = flag := by
  cases flag <;> decide

/-! ### What is reported -/

/-- **A text for the default level that spells none is reported**, and leaves the default. -/
theorem load_of_not_spells {s : String} (htext : env.text? "STRATA_CONSISTENCY" = some s)
    (hnone : ∀ level : Consistency, ¬level.Spells s) :
    (load env).1.defaultLevel = .localOne ∧ (load env).2 = [.unknownDefaultLevel ⟨s⟩] := by
  have hparse : Consistency.parse s = .error ⟨s⟩ :=
    Consistency.parse_eq_error_iff.mpr ⟨rfl, hnone⟩
  constructor
  · rw [load, ofEnvironment, htext, Option.map_some, Option.getD_some, levelOfText, hparse]
    rfl
  · rw [load, htext, Option.map_some, Option.getD_some, levelEvents, hparse]

/-- **Nothing else is reported**: the variable is absent, or it spells a level. -/
theorem events_load_eq_nil_iff :
    (load env).2 = [] ↔
      ∀ s, env.text? "STRATA_CONSISTENCY" = some s → ∃ level : Consistency, level.Spells s := by
  constructor
  · intro hsilent s htext
    by_contra hnone
    have hreported := (load_of_not_spells htext fun level hs => hnone ⟨level, hs⟩).2
    rw [hsilent] at hreported
    contradiction
  · intro hspells
    cases htext : env.text? "STRATA_CONSISTENCY" with
    | none =>
      rw [load, htext]
      rfl
    | some s =>
      obtain ⟨level, hs⟩ := hspells s htext
      rw [load, htext, Option.map_some, Option.getD_some, levelEvents,
        Consistency.parse_eq_ok_iff.mpr hs]

/-! ### Configurations -/

/-- **A normal configuration is read from where it is written.** -/
theorem ofEnvironment_of_writtenIn (hc : c.Normal) (h : c.WrittenIn env) :
    ofEnvironment env = c := by
  have hdatacenter : (env.text? "STRATA_LOCAL_DC").bind datacenterOfText? = c.localDatacenter := by
    cases hdc : c.localDatacenter with
    | none =>
      rw [Environment.text?_of_none (by rw [h.datacenter, hdc]; rfl)]
      rfl
    | some dc =>
      obtain ⟨hne, htrimmed⟩ := hc dc hdc
      rw [Environment.text?_of_encode (by rw [h.datacenter, hdc]; rfl)]
      exact datacenterOfText?_of_trimmed hne htrimmed
  obtain ⟨s, hspells, hlevel⟩ := h.level
  rw [ofEnvironment, hdatacenter, Environment.text?_of_encode h.hosts,
    Environment.text?_of_encode hlevel, Environment.text?_of_encode h.flag]
  simp only [Option.map_some, Option.getD_some, hostsOfText_toString,
    levelOfText_of_spells hspells, flagOfText_toString]

/-- **The configurations that are read are the normal ones**, with any number of hosts. -/
theorem exists_ofEnvironment_eq_iff : (∃ env, ofEnvironment env = c) ↔ c.Normal := by
  constructor
  · rintro ⟨env, rfl⟩
    exact normal_ofEnvironment env
  · intro hc
    exact ⟨c.toEnvironment, ofEnvironment_of_writtenIn hc c.writtenIn_toEnvironment⟩

/-- **Reading variables normalises them, field by field.**  Each field is read from its own
variable.  What is read is normal, and it is read again from wherever it is written.  Every
configuration can be written, and every normal one is read from somewhere, whatever its number of
hosts. -/
theorem ofEnvironment_normalises (env env' : Environment) :
    ((env "STRATA_LOCAL_DC" = env' "STRATA_LOCAL_DC" →
        (ofEnvironment env).localDatacenter = (ofEnvironment env').localDatacenter) ∧
      (env "STRATA_REMOTE_DC_HOSTS" = env' "STRATA_REMOTE_DC_HOSTS" →
        (ofEnvironment env).remoteHosts = (ofEnvironment env').remoteHosts) ∧
      (env "STRATA_CONSISTENCY" = env' "STRATA_CONSISTENCY" →
        (ofEnvironment env).defaultLevel = (ofEnvironment env').defaultLevel) ∧
      (env "STRATA_PARTITION_AWARE" = env' "STRATA_PARTITION_AWARE" →
        (ofEnvironment env).partitionAware = (ofEnvironment env').partitionAware)) ∧
    (ofEnvironment env).Normal ∧
    ((ofEnvironment env).WrittenIn env' → ofEnvironment env' = ofEnvironment env) ∧
    ∀ c : Config, c.WrittenIn c.toEnvironment ∧ ((∃ env, ofEnvironment env = c) ↔ c.Normal) := by
  refine ⟨⟨?_, ?_, ?_, ?_⟩, normal_ofEnvironment env, ?_, ?_⟩
  · intro h
    rw [ofEnvironment, ofEnvironment, Environment.text?_congr h]
  · intro h
    rw [ofEnvironment, ofEnvironment, Environment.text?_congr h]
  · intro h
    rw [ofEnvironment, ofEnvironment, Environment.text?_congr h]
  · intro h
    rw [ofEnvironment, ofEnvironment, Environment.text?_congr h]
  · exact ofEnvironment_of_writtenIn (normal_ofEnvironment env)
  · intro c
    exact ⟨c.writtenIn_toEnvironment, exists_ofEnvironment_eq_iff⟩

end Config
end QueryRouting
