import WaitingList.Proofs.Connection.Target
import WaitingList.Proofs.Settings.Replacement

namespace WaitingList

namespace Environment

variable {environment : Environment} {bytes : List UInt8} {text : String}

/-- A byte with an ASCII letter in lower case. -/
def lowerByte (b : UInt8) : UInt8 := if 65 ≤ b ∧ b ≤ 90 then b + 32 else b

/-- The word that names an environment. -/
def word : Environment → String
  | development => "local"
  | production => "production"

/-- Bytes that name an environment in some mix of ASCII cases. -/
def SpelledBy (environment : Environment) (bytes : List UInt8) : Prop :=
  bytes.map lowerByte = Utf8.encode environment.word.toList

instance (environment : Environment) (bytes : List UInt8) :
    Decidable (environment.SpelledBy bytes) :=
  inferInstanceAs (Decidable (bytes.map lowerByte = Utf8.encode environment.word.toList))

theorem ofText?_eq_some_iff :
    ofText? text = some environment ↔ text.toLower = environment.word := by
  rw [ofText?]
  cases environment <;> split <;> simp_all [word]

theorem lowerByte_of_lt {b : UInt8} (h : 90 < b) : lowerByte b = b := by
  rw [lowerByte, if_neg fun hupper => UInt8.not_lt.mpr hupper.2 h]

/-- Lowering the bytes of a character is lowering the character. -/
theorem lowerByte_encodeChar (c : Char) :
    (String.utf8EncodeChar c).map lowerByte = String.utf8EncodeChar c.toLower := by
  by_cases hshort : c.toNat < 0x80
  · have hbyte : (UInt8.ofNat c.toNat).toNat = c.toNat := by
      rw [UInt8.toNat_ofNat']
      omega
    have hlower : c.toLower.toNat =
        if 65 ≤ c.toNat ∧ c.toNat ≤ 90 then c.toNat + 32 else c.toNat :=
      ConnectionUrl.toNat_toLower c
    rw [Utf8.encodeChar_of_ascii hshort, Utf8.encodeChar_of_ascii (by rw [hlower]; split <;> omega),
      List.map_singleton, lowerByte, hlower]
    simp only [UInt8.le_iff_toNat_le, hbyte, UInt8.reduceToNat]
    split
    · refine congrArg ([·]) (UInt8.toNat_inj.mp ?_)
      rw [UInt8.toNat_add, hbyte, UInt8.toNat_ofNat']
      rfl
    · rfl
  · have hlong := Nat.not_lt.mp hshort
    obtain ⟨b, k, hbytes, hfirst, hrest⟩ := Utf8.encodeChar_of_long hlong
    have hlower : c.toLower = c := by
      obtain heq | ⟨_, hhigh, _⟩ := ConnectionUrl.eq_or_of_toLower (Eq.refl c.toLower)
      · exact heq.symm
      · omega
    have hkept : ∀ x ∈ b :: k, lowerByte x = x := fun x hx => by
      refine lowerByte_of_lt ?_
      obtain rfl | hx := List.mem_cons.mp hx
      · exact UInt8.lt_trans (by decide) hfirst
      · exact UInt8.lt_of_lt_of_le (by decide) (hrest x hx).1
    rw [hlower, hbytes, List.map_congr_left hkept, List.map_id']

theorem lowerByte_encode (text : List Char) :
    (Utf8.encode text).map lowerByte = Utf8.encode (text.map Char.toLower) := by
  rw [Utf8.encode, Utf8.encode, List.map_flatMap, List.flatMap_map]
  exact congrArg (text.flatMap ·) (funext lowerByte_encodeChar)

/-- A text selects an environment exactly if its bytes spell the environment's name. -/
theorem ofText?_iff_spelledBy :
    ofText? text = some environment ↔ environment.SpelledBy (Utf8.encode text.toList) := by
  have hlower : text.toList.map Char.toLower = text.toLower.toList := String.toList_map.symm
  rw [ofText?_eq_some_iff, SpelledBy, lowerByte_encode, hlower, ← String.toList_inj]
  constructor
  · intro h
    exact congrArg Utf8.encode h
  · intro h
    simpa only [Utf8.decodeLossy_encode] using congrArg Utf8.decodeLossy h

/-- Bytes that spell a name are a text. -/
theorem SpelledBy.exists_text (h : environment.SpelledBy bytes) :
    ∃ text : String, bytes = Utf8.encode text.toList ∧ ofText? text = some environment := by
  have hascii : ∀ b ∈ bytes, b < 0x80 := fun b hb => by
    have hmem : lowerByte b ∈ Utf8.encode environment.word.toList := h ▸ List.mem_map_of_mem hb
    have hword : ∀ b ∈ Utf8.encode environment.word.toList, b < 0x80 := by
      cases environment <;> decide +kernel
    by_contra hlong
    rw [lowerByte_of_lt (UInt8.lt_of_lt_of_le (by decide) (UInt8.not_lt.mp hlong))] at hmem
    exact hlong (hword b hmem)
  obtain ⟨text, rfl⟩ := Utf8.exists_text_of_ascii hascii
  refine ⟨String.ofList text, by rw [String.toList_ofList], ?_⟩
  rwa [ofText?_iff_spelledBy, String.toList_ofList]

end Environment

namespace Variable

variable {before after : List Variable} {name : String}

/-- A name has the value that it is assigned last. -/
theorem find?_assign_concat (vs : List Variable) (v : Variable) (name : String) :
    (assign (vs ++ [v])).find? (·.name = name) =
      if v.name = name then some v else (assign vs).find? (·.name = name) := by
  rw [assign_concat]
  split
  next hany =>
    have hkept : (fun w : Variable => decide (w.name = name)) ∘
        (fun old : Variable => if old.name = v.name then v else old) =
          fun w => decide (w.name = name) := by
      funext old
      rw [Function.comp_apply]
      split
      next hname => rw [hname]
      · rfl
    rw [List.find?_map, hkept]
    split
    next hname =>
      subst hname
      obtain ⟨old, hold⟩ := Option.isSome_iff_exists.mp (List.find?_isSome.mpr
        (List.any_eq_true.mp hany))
      have hnamed : old.name = v.name := by simpa using List.find?_some hold
      rw [hold, Option.map_some, if_pos hnamed]
    next hname =>
      cases hfound : (assign vs).find? (·.name = name) with
      | none => rfl
      | some old =>
        have hnamed : old.name = name := by simpa using List.find?_some hfound
        rw [Option.map_some, if_neg (by rw [hnamed]; exact Ne.symm hname)]
  next hany =>
    rw [List.find?_append]
    split
    next hname =>
      subst hname
      have hnone : (assign vs).find? (·.name = v.name) = none := by
        simpa using hany
      simp [hnone]
    next hname => simp [hname]

theorem find?_assign_of_last {value : List UInt8} (hlast : ∀ w ∈ after, w.name ≠ name) :
    (assign (before ++ ⟨name, value⟩ :: after)).find? (·.name = name) = some ⟨name, value⟩ := by
  induction after using List.reverseRecOn with
  | nil => rw [find?_assign_concat, if_pos rfl]
  | append_singleton rest last ih =>
    obtain ⟨hrest, hname⟩ := List.forall_mem_append.mp hlast
    rw [← List.cons_append, ← List.append_assoc, find?_assign_concat,
      if_neg (hname last (List.mem_singleton_self last)), ih hrest]

end Variable

namespace Surroundings

variable {s t : Surroundings} {name : String} {value : List UInt8} {environment : Environment}

/-- A name is set, and this is the value that it is set to last. -/
def SetsTo (s : Surroundings) (name : String) (value : List UInt8) : Prop :=
  ∃ before after, s.process = before ++ ⟨name, value⟩ :: after ∧ ∀ w ∈ after, w.name ≠ name

theorem SetsTo.valueOf?_eq (h : s.SetsTo name value) : s.valueOf? name = Utf8.text? value := by
  obtain ⟨before, after, hprocess, hlast⟩ := h
  rw [valueOf?, hprocess, Variable.find?_assign_of_last hlast]
  rfl

theorem SetsTo.environment_of_spelled (h : s.SetsTo environmentVariable value)
    (hspelled : environment.SpelledBy value) : s.environment = .ok environment := by
  obtain ⟨text, rfl, hselects⟩ := hspelled.exists_text
  rw [Surroundings.environment, h.valueOf?_eq, Utf8.text?_eq_some_iff.mpr rfl]
  simp [environmentOf, hselects]

theorem settings_of_development (h : s.environment = .ok .development) :
    s.settings = (s.load .development).mapError .layers := by
  rw [settings, h]
  change s.build .development = _
  rw [build]
  cases s.load .development <;> rfl

theorem settings_eq_ok_iff_of_production {r : Settings} (h : s.environment = .ok .production) :
    s.settings = .ok r ↔ ∃ read url, s.load .production = .ok read ∧
      s.valueOf? connectionVariable = some url ∧ ConnectionTarget.ofUrl? url = some r.target ∧
      r = { read with target := r.target } := by
  rw [settings_of_production h]
  constructor
  · intro hok
    split at hok
    · cases hok
    next read hload =>
      obtain ⟨target, htarget, rfl⟩ := map_eq_ok_iff.mp hok
      obtain ⟨url, hurl, hread⟩ := connectionTarget_eq_ok_iff.mp htarget
      exact ⟨read, url, hload, hurl, hread, rfl⟩
  · rintro ⟨read, url, hload, hurl, hread, heq⟩
    rw [hload]
    exact map_eq_ok_iff.mpr ⟨r.target, connectionTarget_eq_ok_iff.mpr ⟨url, hurl, hread⟩, heq.symm⟩

/-- What the variable of the environment is set to last decides the environment. Bytes that spell
one of the two names, in any mix of ASCII cases, select it: its file and the base file are read and
no other, and in production a run that has settings has the store that the URL names. Any other
text is refused. Bytes that are no text at all pass for a variable that is not set. -/
theorem settings_by_environment (h : s.SetsTo environmentVariable value) :
    (Environment.development.SpelledBy value →
      s.settings = (s.load .development).mapError .layers) ∧
    (Environment.production.SpelledBy value → ∀ r, s.settings = .ok r ↔
      ∃ read url, s.load .production = .ok read ∧ s.valueOf? connectionVariable = some url ∧
        ConnectionTarget.ofUrl? url = some r.target ∧ r = { read with target := r.target }) ∧
    (∀ environment : Environment, environment.SpelledBy value → ∀ t : Surroundings,
      t.process = s.process →
      (∀ name ∈ [baseFileName, environment.fileName],
        t.files.lookup name = s.files.lookup name) → t.settings = s.settings) ∧
    ((∀ environment : Environment, ¬ environment.SpelledBy value) →
      ∀ text, Utf8.text? value = some text → s.settings = .error (.unknownEnvironment text)) ∧
    (Utf8.text? value = none → s.settings = (s.load .development).mapError .layers) := by
  refine ⟨fun hspelled => settings_of_development (h.environment_of_spelled hspelled),
    fun hspelled r => settings_eq_ok_iff_of_production (h.environment_of_spelled hspelled),
    fun environment hspelled t hprocess hfiles => ?_, fun hforeign text htext => ?_,
    fun hbytes => settings_of_development ?_⟩
  · have hvalue (name : String) : t.valueOf? name = s.valueOf? name := by
      rw [valueOf?, hprocess, valueOf?]
    have henvironment := h.environment_of_spelled hspelled
    have hother : t.environment = .ok environment := by
      rw [← henvironment, Surroundings.environment, hvalue, Surroundings.environment]
    rw [settings, settings, hother, henvironment]
    change t.build environment = s.build environment
    rw [build, build, load_of_same_files hprocess hfiles, connectionTarget, hvalue,
      connectionTarget]
  · have hnone : Environment.ofText? text = none := by
      refine Option.eq_none_iff_forall_ne_some.mpr fun environment hselects => ?_
      refine hforeign environment ?_
      rwa [Utf8.text?_eq_some_iff.mp htext, ← Environment.ofText?_iff_spelledBy]
    have henvironment : s.environment = .error (.unknownEnvironment text) := by
      rw [Surroundings.environment, h.valueOf?_eq, htext]
      simp [environmentOf, hnone]
    rw [settings, henvironment]
    rfl
  · rw [Surroundings.environment, h.valueOf?_eq, hbytes]

/-- A second value takes the place of the first one, and its case does not count. -/
theorem settings_by_environment_again :
    let s := complete [⟨"APP_ENVIRONMENT", Utf8.encode "staging".toList⟩]
    let t := complete [⟨"APP_ENVIRONMENT", Utf8.encode "staging".toList⟩,
      ⟨"APP_ENVIRONMENT", Utf8.encode "loCal".toList⟩]
    s.settings = .error (.unknownEnvironment "staging") ∧ t.settings = .ok completeSettings := by
  intro s t
  have hs : s.SetsTo environmentVariable (Utf8.encode "staging".toList) := ⟨[], [], rfl, by simp⟩
  have ht : t.SetsTo environmentVariable (Utf8.encode "loCal".toList) :=
    ⟨[⟨"APP_ENVIRONMENT", Utf8.encode "staging".toList⟩], [], rfl, by simp⟩
  obtain ⟨_, _, _, hrefused, _⟩ := settings_by_environment hs
  obtain ⟨hlocal, _⟩ := settings_by_environment ht
  refine ⟨hrefused (fun environment => by cases environment <;> decide) _
    (Utf8.text?_eq_some_iff.mpr rfl), ?_⟩
  have hlayers : t.layers .development = _ := layers_complete_in .development _
  rw [hlocal (by decide), load_of_layers hlayers]
  decide +kernel

/-- Bytes that are no text name no environment, and still the developer's settings are loaded. -/
theorem settings_of_bytes_without_text :
    (∀ environment : Environment, ¬ environment.SpelledBy [0xFF]) ∧
      (complete [⟨"APP_ENVIRONMENT", [0xFF]⟩]).settings = .ok completeSettings := by
  refine ⟨fun environment => by cases environment <;> decide, ?_⟩
  have henvironment : (complete [⟨"APP_ENVIRONMENT", [0xFF]⟩]).environment = .ok .development := by
    decide +kernel
  rw [settings_of_development henvironment, load_of_layers (layers_complete_in .development _)]
  decide +kernel

end Surroundings

end WaitingList
