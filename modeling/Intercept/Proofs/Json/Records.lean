import Intercept.Json.Read
import Intercept.Proofs.Json.Grammar

/-!
# Records in JSON text

The text of a record with given members, and what reading it makes of them.  The members that a reader
knows may come in any order, each at most once, and anything well-formed may stand under other names:
`readRecord_among`.
-/

namespace Intercept.Json

/-! ## Texts of records -/

inductive MemberText : String × List Char → List Char → Prop
  | mk {name : String} {front body gap lead value tail : List Char} (hfront : Blank front)
      (hname : Spells body name.toList) (hgap : Blank gap) (hlead : Blank lead) (htail : Blank tail) :
      MemberText (name, value)
        (front ++ '"' :: (body ++ '"' :: (gap ++ ':' :: (lead ++ (value ++ tail)))))

inductive MembersText : List (String × List Char) → List Char → Prop
  | last {m : String × List Char} {cs : List Char} (h : MemberText m cs) : MembersText [m] cs
  | next {m : String × List Char} {members : List (String × List Char)} {cs others : List Char}
      (h : MemberText m cs) (hothers : MembersText members others) :
      MembersText (m :: members) (cs ++ ',' :: others)

inductive RecordText : List (String × List Char) → List Char → Prop
  | empty {gap : List Char} (h : Blank gap) : RecordText [] ('{' :: (gap ++ ['}']))
  | members {members : List (String × List Char)} {cs : List Char} (h : MembersText members cs) :
      RecordText members ('{' :: (cs ++ ['}']))

/-- A record with these members, in any order, and with any members of names that are not listed. -/
def RecordAmong (names : List String) (known : List (String × List Char)) (cs : List Char) : Prop :=
  ∃ members others, RecordText members cs ∧ members.Perm (known ++ others) ∧
    ∀ m ∈ others, m.1 ∉ names ∧ Derives .value m.2

/-! ## Reading members -/

section

variable {α : Type} {fields : List (Field α)} {step : α → String → α}

def Unknown (fields : List (Field α)) (name : String) : Prop :=
  fields.find? (fun field => field.name == name) = none

theorem unknown_of_notMem {name : String} (h : name ∉ fields.map Field.name) :
    Unknown fields name := by
  unfold Unknown
  rw [List.find?_eq_none]
  intro field hfield hsame
  exact h (eq_of_beq hsame ▸ List.mem_map_of_mem hfield)

def Stores (fields : List (Field α)) (step : α → String → α) (m : String × List Char) : Prop :=
  match fields.find? fun field => field.name == m.1 with
  | none => Derives .value m.2 ∧ ∀ a, step a m.1 = a
  | some field => ∀ a lead rest, Blank lead → Ends rest →
      field.read a (lead ++ (m.2 ++ rest)) = .ok (step a m.1, rest)

def separator (first : Bool) : List Char :=
  if first then [] else [',']

theorem readMembers_gap {gap : List Char} (h : Blank gap) (fuel : Nat) (seen : List String)
    (first : Bool) (a : α) (cs : List Char) :
    readMembers fields fuel seen first a (gap ++ cs) = readMembers fields fuel seen first a cs := by
  cases fuel with
  | zero => rfl
  | succ fuel => simp [readMembers, h]

theorem readMembers_brace (fuel : Nat) (seen : List String) (first : Bool) (a : α)
    (rest : List Char) : readMembers fields (fuel + 1) seen first a ('}' :: rest) = .ok (a, rest) := by
  simp [readMembers, isBlank]

theorem readMembers_separator {front : List Char} (h : Blank front) (fuel : Nat)
    (seen : List String) (first : Bool) (a : α) (cs : List Char) :
    readMembers fields (fuel + 1) seen first a (separator first ++ (front ++ '"' :: cs)) =
      readMembers fields (fuel + 1) seen true a ('"' :: cs) := by
  cases first with
  | false => simp [readMembers, separator, h, isBlank]
  | true => simp [readMembers, separator, h, isBlank]

theorem exists_readMembers {m : String × List Char} {cs rest : List Char} (h : MemberText m cs)
    (hstores : Stores fields step m) {seen : List String}
    (hseen : m.1 ∈ seen → Unknown fields m.1) (hrest : Ends rest) (fuel : Nat) (first : Bool)
    (a : α) :
    ∃ seen', (∀ name ∈ seen', name = m.1 ∨ name ∈ seen) ∧
      readMembers fields (fuel + 1) seen first a (separator first ++ (cs ++ rest)) =
        readMembers fields fuel seen' false (step a m.1) rest := by
  cases h with
  | mk hfront hname hgap hlead htail =>
      rename_i name front body gap lead value tail
      have hends := ends_blank_append htail hrest
      dsimp only at hseen ⊢
      simp only [List.append_assoc, List.cons_append, readMembers_separator hfront]
      unfold Stores at hstores
      cases hfind : fields.find? fun field => field.name == name with
      | none =>
          simp only [hfind] at hstores
          obtain ⟨hvalue, hstep⟩ := hstores
          have hskip := skipValue_value hlead hvalue hends
          refine ⟨seen, fun _ hmem => .inr hmem, ?_⟩
          simp [readMembers, isBlank, readChars_spells hname, hfind, skipColon_gap hgap, hskip,
            readMembers_gap htail, hstep]
      | some field =>
          simp only [hfind] at hstores
          have hread := hstores a lead _ hlead hends
          obtain rfl : field.name = name := by simpa using List.find?_some hfind
          have hnew : field.name ∉ seen := by simpa [Unknown, hfind] using hseen
          refine ⟨field.name :: seen, fun _ hmem => List.mem_cons.mp hmem, ?_⟩
          simp [readMembers, isBlank, readChars_spells hname, hfind, skipColon_gap hgap, hread, hnew,
            readMembers_gap htail]

def Once (fields : List (Field α)) (members : List (String × List Char)) : Prop :=
  members.Pairwise fun m other => m.1 = other.1 → Unknown fields m.1

/-- By induction on the members: each is read in front of the others, and the names noted so far are
those of members before it. -/
theorem readMembers_members {members : List (String × List Char)} {cs : List Char}
    (h : MembersText members cs) (hstores : ∀ m ∈ members, Stores fields step m)
    (honce : Once fields members) {seen : List String}
    (hseen : ∀ m ∈ members, m.1 ∈ seen → Unknown fields m.1) {fuel : Nat}
    (hfuel : members.length < fuel) (first : Bool) (a : α) (rest : List Char) :
    readMembers fields fuel seen first a (separator first ++ (cs ++ '}' :: rest)) =
      .ok (members.foldl (fun a m => step a m.1) a, rest) := by
  induction h generalizing seen fuel first a with
  | last h =>
      obtain ⟨fuel, rfl⟩ := Nat.exists_eq_add_of_lt hfuel
      obtain ⟨seen', -, hread⟩ := exists_readMembers h (hstores _ List.mem_cons_self)
        (hseen _ List.mem_cons_self) (ends_brace rest) (fuel + 1) first a
      rw [List.length_singleton, show 1 + fuel + 1 = fuel + 1 + 1 by omega, hread]
      exact readMembers_brace fuel _ _ _ rest
  | next h hothers ih =>
      rename_i m members cs others
      obtain ⟨fuel, rfl⟩ := Nat.exists_eq_add_of_lt hfuel
      obtain ⟨hm, hstores⟩ := List.forall_mem_cons.mp hstores
      obtain ⟨honce, hothersOnce⟩ := List.pairwise_cons.mp honce
      obtain ⟨seen', hseen', hread⟩ := exists_readMembers h hm (hseen _ List.mem_cons_self)
        (ends_comma (others ++ '}' :: rest)) ((m :: members).length + fuel) first a
      have hnew : ∀ other ∈ members, other.1 ∈ seen' → Unknown fields other.1 := by
        intro other hother hmem
        rcases hseen' _ hmem with hsame | hmem
        · exact hsame ▸ honce other hother hsame.symm
        · exact hseen other (List.mem_cons_of_mem m hother) hmem
      rw [List.append_assoc, List.cons_append, hread]
      have hfuel : members.length < (m :: members).length + fuel := by
        rw [List.length_cons]
        omega
      exact ih hstores hothersOnce hnew hfuel false (step a m.1)

theorem length_le_of_membersText {members : List (String × List Char)} {cs : List Char}
    (h : MembersText members cs) : members.length ≤ cs.length := by
  induction h with
  | last h =>
      cases h
      simp only [List.length_append, List.length_cons, List.length_nil]
      omega
  | next h hothers ih =>
      simp only [List.length_append, List.length_cons]
      omega

theorem readRecord_text {members : List (String × List Char)} {cs lead : List Char}
    (h : RecordText members cs) (hlead : Blank lead)
    (hstores : ∀ m ∈ members, Stores fields step m) (honce : Once fields members) (a : α)
    (rest : List Char) :
    readRecord fields a (lead ++ (cs ++ rest)) =
      .ok (members.foldl (fun a m => step a m.1) a, rest) := by
  cases h with
  | empty hgap =>
      simp [readRecord, hlead, isBlank, readMembers_gap hgap, readMembers_brace]
  | members h =>
      rename_i cs
      have hlength := length_le_of_membersText h
      have hfuel : members.length < (cs ++ '}' :: rest).length + 1 := by
        rw [List.length_append]
        omega
      have hread := readMembers_members h hstores honce (fun m _ hm => absurd hm List.not_mem_nil)
        hfuel true a rest
      simpa [readRecord, hlead, isBlank, separator] using hread

/-- In what order the members come has no say in what is read, and members of other names have no
part in it. -/
theorem readRecord_among {names : List String} {known : List (String × List Char)}
    {cs lead : List Char} (h : RecordAmong names known cs) (hlead : Blank lead)
    (hnames : fields.map Field.name = names) (hstores : ∀ m ∈ known, Stores fields step m)
    (honce : (known.map Prod.fst).Nodup) (hstep : ∀ name ∉ names, ∀ a, step a name = a)
    (hcomm : ∀ a name other, step (step a name) other = step (step a other) name) (a : α)
    (rest : List Char) :
    readRecord fields a (lead ++ (cs ++ rest)) =
      .ok (known.foldl (fun a m => step a m.1) a, rest) := by
  obtain ⟨members, others, htext, hperm, hothers⟩ := h
  have hunknown : ∀ m ∈ others, Unknown fields m.1 := fun m hm =>
    unknown_of_notMem (hnames ▸ (hothers m hm).1)
  have hall : ∀ m ∈ members, Stores fields step m := by
    intro m hm
    rcases List.mem_append.mp (hperm.mem_iff.mp hm) with hm | hm
    · exact hstores m hm
    · obtain ⟨hname, hvalue⟩ := hothers m hm
      have hfind := hunknown m hm
      unfold Unknown at hfind
      simp only [Stores, hfind]
      exact ⟨hvalue, hstep m.1 hname⟩
  have hmembers : Once fields members := by
    refine (hperm.pairwise_iff fun h hsame => hsame ▸ h hsame.symm).mpr ?_
    refine List.pairwise_append.mpr ⟨?_, ?_, ?_⟩
    · exact (List.pairwise_map.mp honce).imp fun hne hsame => absurd hsame hne
    · exact List.pairwise_of_forall_mem_list fun m hm _ _ _ => hunknown m hm
    · exact fun m _ other hother hsame => hsame ▸ hunknown other hother
  have hfold : members.foldl (fun a m => step a m.1) a = known.foldl (fun a m => step a m.1) a := by
    rw [hperm.foldl_eq' (fun m _ other _ a => hcomm a m.1 other.1), List.foldl_append]
    exact (List.foldl_ext _ _ _ fun a m hm => hstep m.1 (hothers m hm).1 a).trans
      (List.foldl_fixed others)
  rw [readRecord_text htext hlead hall hmembers, hfold]

end

/-! ## Written records -/

theorem memberText_literal (name value : String) :
    MemberText (name, value.toList) (literal name ++ ":" ++ value).toList := by
  have h : MemberText (name, value.toList) _ :=
    .mk blank_nil (spells_writeChars name.toList) blank_nil blank_nil blank_nil
  simpa [literal] using h

theorem membersText_intercalate (m : String × String) (members : List (String × String)) :
    MembersText ((m :: members).map fun m => (m.1, m.2.toList))
      (",".intercalate ((m :: members).map fun m => literal m.1 ++ ":" ++ m.2)).toList := by
  induction members generalizing m with
  | nil => simpa using MembersText.last (memberText_literal m.1 m.2)
  | cons other members ih =>
      have h := MembersText.next (memberText_literal m.1 m.2) (ih other)
      simpa [String.toList_intercalate] using h

theorem recordText_compactRecord (members : List (String × String)) :
    RecordText (members.map fun m => (m.1, m.2.toList)) (compactRecord members).toList := by
  cases members with
  | nil => exact .empty blank_nil
  | cons m members =>
      have h := RecordText.members (membersText_intercalate m members)
      simpa [compactRecord] using h

theorem recordAmong_compactRecord (names : List String) (members : List (String × String)) :
    RecordAmong names (members.map fun m => (m.1, m.2.toList)) (compactRecord members).toList := by
  refine ⟨_, [], recordText_compactRecord members, ?_, fun m hm => absurd hm List.not_mem_nil⟩
  rw [List.append_nil]

end Intercept.Json
