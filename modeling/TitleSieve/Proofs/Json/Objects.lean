import Mathlib.Data.List.Forall2
import TitleSieve.Proofs.Json.Scalars
import TitleSieve.Proofs.Scanning

/-!
Objects of texts and numbers, written on one line and read back. Between two steps of the reader the
text is cut where the first step ended. A field is taken in three steps, its name, its value and
what stands behind it; the fields that have been taken are kept in order, so that an object whose
names all differ is read back field by field.
-/

namespace TitleSieve.Json

namespace Fields

theorem set_of_not_mem {name : Text} {fields : Fields} (h : name ∉ fields.map Prod.fst)
    (value : Value) : set name value fields = fields ++ [(name, value)] := by
  induction fields with
  | nil => rfl
  | cons field rest ih =>
    rw [List.map_cons, List.mem_cons, not_or] at h
    obtain ⟨n, v⟩ := field
    rw [set, if_neg (Ne.symm h.1), ih h.2, List.cons_append]

def setAll (fields given : Fields) : Fields :=
  given.foldl (fun fields field => set field.1 field.2 fields) fields

/-- Fields whose names all differ are kept as they were given. -/
theorem setAll_of_nodup {fields given : Fields} (h : ((fields ++ given).map Prod.fst).Nodup) :
    setAll fields given = fields ++ given := by
  induction given generalizing fields with
  | nil => rw [List.append_nil]; rfl
  | cons field rest ih =>
    have hnot : field.1 ∉ fields.map Prod.fst := by
      rw [List.map_append, List.map_cons, List.nodup_append] at h
      exact fun hmem => h.2.2 field.1 hmem field.1 List.mem_cons_self rfl
    have hrest : ((fields ++ [field] ++ rest).map Prod.fst).Nodup := by
      rwa [List.append_assoc, List.singleton_append]
    calc
      setAll fields (field :: rest) = setAll (fields ++ [field]) rest := by
        rw [setAll, List.foldl_cons, set_of_not_mem hnot, setAll]
      _ = fields ++ [field] ++ rest := ih hrest
      _ = fields ++ field :: rest := by rw [List.append_assoc, List.singleton_append]

end Fields

/-- The second field has the name of the first one, whose value is read as that of the second. -/
def FieldReadsAs (field field' : Text × Value) : Prop :=
  field'.1 = field.1 ∧ ReadsAs field.2.write field'.2

namespace Reader

def readFrom (reader : Reader) (t : Text) : Except Error Value := scanFrom step atEnd 0 reader t

theorem readFrom_of_stepAt {reader reader' : Reader} {used left : Text}
    (hhead : ∃ c more, used = c :: more ∧ isSpace c = false)
    (hstep : reader.stepAt (used ++ left) = .ok (reader', left)) (blanks : Text)
    (hblanks : ∀ c ∈ blanks, isSpace c = true) :
    reader.readFrom (blanks ++ used ++ left) = reader'.readFrom left := by
  obtain ⟨c, more, rfl, hc⟩ := hhead
  apply scanFrom_of_step (by simp)
  have hdrop : (blanks ++ (c :: more) ++ left).dropWhile isSpace = c :: more ++ left := by
    rw [List.append_assoc, List.dropWhile_append_of_pos hblanks, List.cons_append,
      List.dropWhile_cons_of_neg (by simp [hc])]
  rw [step, hdrop]
  simp only [List.cons_append] at hstep ⊢
  rw [hstep]
  rfl

theorem isSpace_of_mem_singleton : ∀ c ∈ [' '], isSpace c = true := by simp [isSpace]

def AwaitsName (phase : Phase) (fields : Fields) : Prop :=
  phase = .firstName fields ∨ phase = .name fields

theorem stepName_writeText (stack : List Open) (fields : Fields) (name left : Text) :
    stepName stack fields (writeText name ++ [':'] ++ left) =
      .ok (⟨.object fields ⟨name, false⟩ :: stack, .value⟩, left) := by
  have htext : writeText name ++ [':'] ++ left =
      '"' :: (name.flatMap writeChar ++ '"' :: (':' :: left)) := by
    simp [writeText]
  rw [htext, stepName, readString_flatMap_writeChar]
  rfl

/-- A field is taken, up to the comma or the brace behind it. -/
theorem readFrom_field {phase : Phase} {fields : Fields} (hphase : AwaitsName phase fields)
    {blanks : Text} (hblanks : ∀ c ∈ blanks, isSpace c = true) (name : Text) {written : Text}
    {value : Value} (hread : ReadsAs written value) {left : Text} (hleft : EndsValue left) :
    readFrom ⟨[], phase⟩ (blanks ++ (writeText name ++ [':']) ++ ([' '] ++ written ++ left)) =
      readFrom ⟨[.object (Fields.set name value fields) ⟨[], false⟩], .next⟩ left := by
  have hname :
      (⟨[], phase⟩ : Reader).stepAt (writeText name ++ [':'] ++ ([' '] ++ written ++ left)) =
      .ok (⟨[.object fields ⟨name, false⟩], .value⟩, [' '] ++ written ++ left) := by
    rw [← stepName_writeText [] fields name ([' '] ++ written ++ left)]
    rcases hphase with rfl | rfl <;> rfl
  have hvalue : (⟨[.object fields ⟨name, false⟩], .value⟩ : Reader).stepAt (written ++ left) =
      .ok (⟨[.object (Fields.set name value fields) ⟨[], false⟩], .next⟩, left) :=
    hread.step [.object fields ⟨name, false⟩] left hleft
  have hquote : ∃ c more, writeText name ++ [':'] = c :: more ∧ isSpace c = false :=
    ⟨'"', _, rfl, by decide⟩
  rw [readFrom_of_stepAt hquote hname blanks hblanks,
    readFrom_of_stepAt hread.head hvalue [' '] isSpace_of_mem_singleton]

/-- Behind a comma stands another field. -/
theorem readFrom_comma (fields : Fields) (name : Content) (left : Text) :
    readFrom ⟨[.object fields name], .next⟩ (',' :: left) = readFrom ⟨[], .name fields⟩ left := by
  have hstep : (⟨[.object fields name], .next⟩ : Reader).stepAt ([','] ++ left) =
      .ok (⟨[], .name fields⟩, left) := rfl
  exact readFrom_of_stepAt ⟨',', [], rfl, by decide⟩ hstep [] (by simp)

/-- The fields of an object are taken in order, and the brace behind them ends the reading. -/
theorem readFrom_writeFields {given given' : Fields} (h : List.Forall₂ FieldReadsAs given given')
    (hne : given ≠ []) {phase : Phase} {fields : Fields} (hphase : AwaitsName phase fields)
    {blanks : Text} (hblanks : ∀ c ∈ blanks, isSpace c = true) :
    readFrom ⟨[], phase⟩ (blanks ++ (writeFields given ++ ['\x7d'])) =
      .ok (.object (Fields.setAll fields given')) := by
  induction h generalizing phase fields blanks with
  | nil => exact absurd rfl hne
  | @cons field field' rest rest' hfield hrest ih =>
    obtain ⟨_, value⟩ := field
    obtain ⟨name, value'⟩ := field'
    obtain ⟨rfl, hread⟩ := hfield
    cases rest with
    | nil =>
      cases hrest
      have htext : blanks ++ (writeFields [(name, value)] ++ ['\x7d']) =
          blanks ++ (writeText name ++ [':']) ++ ([' '] ++ value.write ++ ['\x7d']) := by
        simp [writeFields]
      rw [htext, readFrom_field hphase hblanks name hread (.inr rfl)]
      rfl
    | cons second more =>
      have htext : blanks ++ (writeFields ((name, value) :: second :: more) ++ ['\x7d']) =
          blanks ++ (writeText name ++ [':']) ++ ([' '] ++ value.write ++
            (',' :: ([' '] ++ (writeFields (second :: more) ++ ['\x7d'])))) := by
        simp [writeFields]
      calc
        readFrom ⟨[], phase⟩ (blanks ++ (writeFields ((name, value) :: second :: more) ++ ['\x7d']))
          = readFrom ⟨[.object (Fields.set name value' fields) ⟨[], false⟩], .next⟩
              (',' :: ([' '] ++ (writeFields (second :: more) ++ ['\x7d']))) := by
          rw [htext, readFrom_field hphase hblanks name hread (.inl rfl)]
        _ = readFrom ⟨[], .name (Fields.set name value' fields)⟩
              ([' '] ++ (writeFields (second :: more) ++ ['\x7d'])) := readFrom_comma ..
        _ = .ok (.object (Fields.setAll fields ((name, value') :: rest'))) :=
          ih (List.cons_ne_nil second more) (.inr rfl) isSpace_of_mem_singleton

end Reader

/-- An object is written on one line if all its values are. -/
theorem isClean_write_object {given : Fields} (h : ∀ field ∈ given, IsClean field.2.write) :
    IsClean (Value.object given).write := by
  have hfields : IsClean (writeFields given) := by
    induction given with
    | nil => simp [writeFields, IsClean]
    | cons field rest ih =>
      rw [List.forall_mem_cons] at h
      obtain ⟨name, value⟩ := field
      have hfirst : IsClean (writeText name ++ [':', ' '] ++ value.write) :=
        ((isClean_writeText name).append (by simp [IsClean])).append h.1
      cases rest with
      | nil => exact hfirst
      | cons second more => exact (hfirst.append (by simp [IsClean])).append (ih h.2)
  have hopened : IsClean ('\x7b' :: writeFields given) := by
    have hbrace : IsClean ['\x7b'] := by simp [IsClean]
    exact hbrace.append hfields
  exact hopened.append (by simp [IsClean])

/-- An object of values that are read back, with names that all differ, is read back. -/
theorem Value.read_write_object {given given' : Fields}
    (h : List.Forall₂ FieldReadsAs given given') (hnodup : (given'.map Prod.fst).Nodup) :
    Value.read (Value.object given).write = .ok (.object given') := by
  have hset : Fields.setAll [] given' = given' := Fields.setAll_of_nodup hnodup
  cases h with
  | nil => rfl
  | @cons field field' rest rest' hfield hrest =>
    have hopened : (⟨[], .value⟩ : Reader).stepAt
        (['\x7b'] ++ (writeFields (field :: rest) ++ ['\x7d'])) =
          .ok (⟨[], .firstName []⟩, writeFields (field :: rest) ++ ['\x7d']) := rfl
    have hnone : ∀ c ∈ ([] : Text), isSpace c = true := by simp
    calc
      Value.read (Value.object (field :: rest)).write
        = Reader.readFrom ⟨[], .value⟩
            ([] ++ ['\x7b'] ++ (writeFields (field :: rest) ++ ['\x7d'])) := by
        rw [Value.read, Value.write]
        rfl
      _ = Reader.readFrom ⟨[], .firstName []⟩ (writeFields (field :: rest) ++ ['\x7d']) :=
        Reader.readFrom_of_stepAt ⟨'\x7b', [], rfl, by decide⟩ hopened [] hnone
      _ = .ok (.object (field' :: rest')) := by
        rw [← hset]
        exact Reader.readFrom_writeFields (.cons hfield hrest) (List.cons_ne_nil field rest)
          (.inl rfl) hnone

end TitleSieve.Json
