import Mathlib.Data.List.ReduceOption
import Intercept.Json.Forms
import Intercept.Proofs.Json.Records

/-!
# Settings in JSON

A text of settings lays the fields that it states over the standard ones, in whatever order and layout
they stand and whatever other members stand among them: `settings_overlay_standard`.  Settings that
are written state every field, so that they are read back unless they are refused.
-/

namespace Intercept

/-! ## Values of fields -/

namespace Json

theorem readBoolean_boolean {lead : List Char} (h : Blank lead) (b : Bool) (rest : List Char) :
    readBoolean (lead ++ ((Text.boolean b).toList ++ rest)) = .ok (b, rest) := by
  cases b with
  | false => simp [readBoolean, Text.boolean, h, isBlank, skipWord]
  | true => simp [readBoolean, Text.boolean, h, isBlank, skipWord]

theorem readWord_repr {lead rest : List Char} {n : Nat} (hlead : Blank lead)
    (h : n < 18446744073709551616) (hrest : Ends rest) :
    readWord (lead ++ ((Nat.repr n).toList ++ rest)) = .ok (n, rest) := by
  have hread := readNumeral_toDigits .truncated n hrest
  obtain ⟨d, others, hdigits, hd⟩ := (isWhole_toDigits n).1.exists_cons
  have hblank : isBlank d = false := isBlank_of_number (.inr hd)
  have hskip : skipBlank (lead ++ ((Nat.repr n).toList ++ rest)) = d :: (others ++ rest) := by
    rw [skipBlank_append hlead, Nat.toList_repr, hdigits, List.cons_append, skipBlank_cons hblank]
  rw [readWord, hskip]
  rw [hdigits, List.cons_append] at hread
  simp [hread, hd, ← hdigits, isBeyond_toDigits h, word?_toDigits h]

end Json

/-! ## Policies -/

namespace Policy

/-- The fields of a policy that a text states. -/
structure Overlay where
  enabled : Option Bool
  maxIdle : Option UInt64
  maxResultCapacity : Option UInt64
  maxMetadataEntries : Option UInt64

namespace Overlay

variable (overlay : Overlay)

def names : List String :=
  ["enabled", "maxIdle", "maxResultCapacity", "maxMetadataEntries"]

def members : List (String × List Char) :=
  let word (n : UInt64) : List Char := (Nat.repr n.toNat).toList
  [overlay.enabled.map fun b => ("enabled", (Text.boolean b).toList),
    overlay.maxIdle.map fun n => ("maxIdle", word n),
    overlay.maxResultCapacity.map fun n => ("maxResultCapacity", word n),
    overlay.maxMetadataEntries.map fun n => ("maxMetadataEntries", word n)].reduceOption

def Stated (cs : List Char) : Prop :=
  Json.RecordAmong names overlay.members cs

def onto (policy : Policy) : Policy where
  enabled := overlay.enabled.getD policy.enabled
  maxIdle := (overlay.maxIdle.map UInt64.toNat).getD policy.maxIdle
  maxResultCapacity := (overlay.maxResultCapacity.map UInt64.toNat).getD policy.maxResultCapacity
  maxMetadataEntries := (overlay.maxMetadataEntries.map UInt64.toNat).getD policy.maxMetadataEntries

def put (policy : Policy) (name : String) : Policy where
  enabled := if name = "enabled" then (overlay.onto policy).enabled else policy.enabled
  maxIdle := if name = "maxIdle" then (overlay.onto policy).maxIdle else policy.maxIdle
  maxResultCapacity :=
    if name = "maxResultCapacity" then (overlay.onto policy).maxResultCapacity
    else policy.maxResultCapacity
  maxMetadataEntries :=
    if name = "maxMetadataEntries" then (overlay.onto policy).maxMetadataEntries
    else policy.maxMetadataEntries

theorem put_of_notMem {name : String} (h : name ∉ names) (policy : Policy) :
    overlay.put policy name = policy := by
  simp only [names, List.mem_cons, List.not_mem_nil, or_false, not_or] at h
  obtain ⟨henabled, hidle, hresult, hmetadata⟩ := h
  simp [put, henabled, hidle, hresult, hmetadata]

theorem put_comm (policy : Policy) (name other : String) :
    overlay.put (overlay.put policy name) other = overlay.put (overlay.put policy other) name := by
  simp only [put, onto, Policy.mk.injEq]
  refine ⟨?_, ?_, ?_, ?_⟩ <;> split_ifs <;> rfl

theorem foldl_put (policy : Policy) :
    overlay.members.foldl (fun policy m => overlay.put policy m.1) policy = overlay.onto policy := by
  -- There is one list of members for every choice of fields that are stated.
  obtain ⟨enabled, maxIdle, maxResultCapacity, maxMetadataEntries⟩ := overlay
  cases enabled <;> cases maxIdle <;> cases maxResultCapacity <;> cases maxMetadataEntries <;>
    simp [members, put, onto, List.reduceOption]

theorem nodup_members : (overlay.members.map Prod.fst).Nodup := by
  obtain ⟨enabled, maxIdle, maxResultCapacity, maxMetadataEntries⟩ := overlay
  cases enabled <;> cases maxIdle <;> cases maxResultCapacity <;> cases maxMetadataEntries <;>
    simp [members, List.reduceOption]

theorem stores_members : ∀ m ∈ overlay.members, Json.Stores fields overlay.put m := by
  intro m hm
  simp only [members, List.reduceOption_mem_iff, List.mem_cons, List.not_mem_nil, or_false] at hm
  rcases hm with hm | hm | hm | hm
  · obtain ⟨b, hb, rfl⟩ := Option.map_eq_some_iff.mp hm.symm
    intro policy lead rest hlead hrest
    dsimp only
    rw [Json.readBoolean_boolean hlead]
    simp only [put, onto, hb, String.reduceEq, if_true, if_false, Option.getD_some]
    rfl
  -- The other fields differ by their names alone.
  all_goals
    obtain ⟨n, hn, rfl⟩ := Option.map_eq_some_iff.mp hm.symm
    intro policy lead rest hlead hrest
    dsimp only
    rw [Json.readWord_repr hlead n.toNat_lt hrest]
    simp only [put, onto, hn, String.reduceEq, if_true, if_false, Option.map_some, Option.getD_some]
    rfl

theorem Stated.read {overlay : Overlay} {cs lead : List Char} (h : overlay.Stated cs)
    (hlead : Json.Blank lead) (policy : Policy) (rest : List Char) :
    Json.readRecord fields policy (lead ++ (cs ++ rest)) = .ok (overlay.onto policy, rest) := by
  rw [Json.readRecord_among h hlead rfl overlay.stores_members overlay.nodup_members
    (fun _ => overlay.put_of_notMem) overlay.put_comm, foldl_put]

end Overlay

def stated (policy : Policy) : Overlay where
  enabled := some policy.enabled
  maxIdle := some (.ofNat policy.maxIdle)
  maxResultCapacity := some (.ofNat policy.maxResultCapacity)
  maxMetadataEntries := some (.ofNat policy.maxMetadataEntries)

structure Fits (policy : Policy) : Prop where
  maxIdle : policy.maxIdle < UInt64.size
  maxResultCapacity : policy.maxResultCapacity < UInt64.size
  maxMetadataEntries : policy.maxMetadataEntries < UInt64.size

theorem Fits.stated_onto {policy : Policy} (h : policy.Fits) (other : Policy) :
    policy.stated.onto other = policy := by
  simp [stated, Overlay.onto, UInt64.toNat_ofNat_of_lt' h.maxIdle,
    UInt64.toNat_ofNat_of_lt' h.maxResultCapacity, UInt64.toNat_ofNat_of_lt' h.maxMetadataEntries]

theorem Fits.stated_write {policy : Policy} (h : policy.Fits) :
    policy.stated.Stated policy.write.toList := by
  have hcs := Json.recordAmong_compactRecord Overlay.names
    [("enabled", Text.boolean policy.enabled),
      ("maxIdle", Nat.repr policy.maxIdle),
      ("maxResultCapacity", Nat.repr policy.maxResultCapacity),
      ("maxMetadataEntries", Nat.repr policy.maxMetadataEntries)]
  simpa [stated, Overlay.Stated, Overlay.members, List.reduceOption, write,
    UInt64.toNat_ofNat_of_lt' h.maxIdle, UInt64.toNat_ofNat_of_lt' h.maxResultCapacity,
    UInt64.toNat_ofNat_of_lt' h.maxMetadataEntries] using hcs

end Policy

/-! ## Settings -/

namespace Settings

structure Overlay where
  pool : Option Policy.Overlay

namespace Overlay

def onto (overlay : Overlay) (settings : Settings) : Settings :=
  ⟨(overlay.pool.map fun pool => pool.onto settings.pool).getD settings.pool⟩

inductive Stated : Overlay → List Char → Prop
  | bare {cs : List Char} (h : Json.RecordAmong ["pool"] [] cs) : Stated ⟨none⟩ cs
  | pool {pool : Policy.Overlay} {value cs : List Char} (hpool : pool.Stated value)
      (h : Json.RecordAmong ["pool"] [("pool", value)] cs) : Stated ⟨some pool⟩ cs

/-- The text states the overlay, between blanks if there are any. -/
def SaidBy (overlay : Overlay) (text : String) : Prop :=
  Json.Alone overlay.Stated text

/-- What is stated of the pool goes over the standard policy, not over the one read so far. -/
def put (pool : Policy.Overlay) (settings : Settings) (name : String) : Settings :=
  if name = "pool" then ⟨pool.onto .standard⟩ else settings

theorem put_of_notMem (pool : Policy.Overlay) {name : String} (h : name ∉ ["pool"])
    (settings : Settings) : put pool settings name = settings :=
  if_neg (mt List.mem_singleton.mpr h)

theorem put_comm (pool : Policy.Overlay) (settings : Settings) (name other : String) :
    put pool (put pool settings name) other = put pool (put pool settings other) name := by
  simp only [put]
  split_ifs <;> rfl

theorem stores_pool {pool : Policy.Overlay} {value : List Char} (h : pool.Stated value) :
    Json.Stores fields (put pool) ("pool", value) := by
  intro settings lead rest hlead _
  dsimp only
  rw [h.read hlead]
  rfl

theorem Stated.read {overlay : Overlay} {cs lead : List Char} (h : overlay.Stated cs)
    (hlead : Json.Blank lead) (rest : List Char) :
    Json.readRecord fields standard (lead ++ (cs ++ rest)) = .ok (overlay.onto standard, rest) := by
  cases h with
  | bare hcs =>
      have hstores : ∀ m ∈ [], Json.Stores fields (fun settings _ => settings) m :=
        fun m hm => absurd hm List.not_mem_nil
      rw [Json.readRecord_among hcs hlead rfl hstores List.nodup_nil (fun _ _ _ => rfl)
        (fun _ _ _ => rfl)]
      rfl
  | pool hpool hcs =>
      rename_i pool value
      have hstores : ∀ m ∈ [("pool", value)], Json.Stores fields (put pool) m := by
        intro m hm
        exact List.mem_singleton.mp hm ▸ stores_pool hpool
      rw [Json.readRecord_among hcs hlead rfl hstores
        (List.nodup_cons.mpr ⟨List.not_mem_nil, List.nodup_nil⟩) (fun _ => put_of_notMem pool)
        (put_comm pool)]
      rfl

theorem SaidBy.parse {overlay : Overlay} {text : String} (h : overlay.SaidBy text) :
    parse text = .ok (overlay.onto standard) := by
  obtain ⟨front, cs, back, hfront, hcs, hback, htext⟩ := h
  refine Json.readAll_eq_ok_iff.mpr ⟨back, hback, ?_⟩
  rw [htext, hcs.read hfront]

end Overlay

def stated (settings : Settings) : Overlay :=
  ⟨some settings.pool.stated⟩

theorem stated_onto {settings : Settings} (h : settings.pool.Fits) (other : Settings) :
    settings.stated.onto other = settings := by
  simp [stated, Overlay.onto, h.stated_onto]

theorem saidBy_write {settings : Settings} (h : settings.pool.Fits) :
    settings.stated.SaidBy settings.write := by
  have hcs : Json.RecordAmong ["pool"] [("pool", settings.pool.write.toList)]
      settings.write.toList := Json.recordAmong_compactRecord ["pool"] [("pool", settings.pool.write)]
  exact Json.alone_of_toList (.pool h.stated_write hcs)

theorem read_of_parse {text : String} {settings : Settings} (h : parse text = .ok settings) :
    read text =
      if settings.pool.enabled = true ∧ settings.pool.maxIdle = 0 then
        .error (.refused .noIdleFrames)
      else .ok settings := by
  rw [read, h]
  by_cases hrefused : settings.pool.enabled = true ∧ settings.pool.maxIdle = 0
  · simp [validate, hrefused]
  · simp only [validate, hrefused, if_false]

end Settings

/-! ## Main result -/

/-- A text that states an overlay is read as the standard settings with the overlay laid over them,
unless these have a pool that is switched on and may keep no frames: that, and nothing else, is
refused.  What is written of settings is read back just when they are valid. -/
theorem settings_overlay_standard :
    (∀ (overlay : Settings.Overlay) (text : String), overlay.SaidBy text →
      Settings.read text =
        if (overlay.onto .standard).pool.enabled = true ∧ (overlay.onto .standard).pool.maxIdle = 0 then
          .error (.refused .noIdleFrames)
        else .ok (overlay.onto .standard)) ∧
      ∀ settings : Settings, settings.pool.Fits →
        (Settings.read settings.write = .ok settings ↔ settings.validate = .ok ()) ∧
          (settings.validate ≠ .ok () →
            Settings.read settings.write = .error (.refused .noIdleFrames)) := by
  refine ⟨fun overlay text h => Settings.read_of_parse h.parse, fun settings h => ?_⟩
  have hparse := (Settings.saidBy_write h).parse
  rw [Settings.stated_onto h] at hparse
  rw [Settings.read_of_parse hparse]
  by_cases hrefused : settings.pool.enabled = true ∧ settings.pool.maxIdle = 0
  · simp [Settings.validate, hrefused]
  · simp [Settings.validate, hrefused]

theorem settings_overlay_standard_pool :
    Settings.read " \x7b\"n\":null,\"pool\":\x7b\"maxIdle\":0,\"note\":[null],\"enabled\":false\x7d\x7d" =
        .ok ⟨{ Policy.standard with enabled := false, maxIdle := 0 }⟩ ∧
      Settings.read (Settings.write .standard) = .ok .standard ∧
      Settings.read (Settings.write ⟨{ Policy.standard with maxIdle := 0 }⟩) =
        .error (.refused .noIdleFrames) := by
  obtain ⟨hread, hwritten⟩ := settings_overlay_standard
  refine ⟨?_, ?_, ?_⟩
  · have hnote : Json.Derives .value "[null]".toList :=
      .list (.item (.padded Json.blank_nil .null Json.blank_nil))
    have hpool : Policy.Overlay.Stated ⟨some false, some 0, none, none⟩
        "\x7b\"maxIdle\":0,\"note\":[null],\"enabled\":false\x7d".toList :=
      ⟨_, [("note", "[null]".toList)], Json.recordText_compactRecord
        [("maxIdle", "0"), ("note", "[null]"), ("enabled", "false")], by decide,
        by simpa [Policy.Overlay.names] using hnote⟩
    have hcs : Json.RecordAmong ["pool"] [("pool", _)] _ :=
      ⟨_, [("n", "null".toList)], Json.recordText_compactRecord
        [("n", "null"), ("pool", "\x7b\"maxIdle\":0,\"note\":[null],\"enabled\":false\x7d")],
        List.Perm.swap _ _ _, by simpa using Json.Derives.null⟩
    refine hread _ _ ⟨[' '], _, [], ?_, .pool hpool hcs, Json.blank_nil, ?_⟩
    · simp [Json.Blank, Json.isBlank]
    · rfl
  · exact (hwritten .standard ⟨by decide, by decide, by decide⟩).1.mpr rfl
  · exact (hwritten _ ⟨by decide, by decide, by decide⟩).2 (by decide)

end Intercept
