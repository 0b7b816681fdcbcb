import TableFeed.Json.Printer
import TableFeed.Json.Reader
import TableFeed.Proofs.Failure.Results

/-!
# What is read can be written

The reader and the writer of JSON are two programs that go in opposite directions.  They agree on
`Json.Writable`: values built of lists and objects, with texts for names, in which no integer is
longer than may be written.  Whatever the reader returns within the limit of digits is of this form,
and whatever is of this form is written.

The main results are

* `Json.writable_of_read`: a value that was read within the limit of digits is writable;
* `Json.Writable.exists_size`: a writable value has a size on the wire;
* `Json.Writable.shown`: a writable value can be displayed.
-/

namespace TableFeed.Json

open Number Text

/-- A value that stands as the name of an entry of an object. -/
inductive IsName : Value → Prop where
  /-- A text. -/
  | text (s : String) : IsName (.text s)
  /-- A text in which half of a pair stands alone. -/
  | torn (gs : List Glyph) : IsName (.torn gs)

/-- A value of the kinds that JSON knows, in which no integer is too long to be written. -/
inductive Writable : Value → Prop where
  /-- The absent value. -/
  | null : Writable .null
  /-- A truth value. -/
  | bool (b : Bool) : Writable (.bool b)
  /-- An integer that is not too long. -/
  | int {n : Int} (short : exceedsDigitLimit n = false) : Writable (.int n)
  /-- A float. -/
  | float (x : Float) : Writable (.float x)
  /-- A text, which may be torn. -/
  | name {v : Value} (isName : IsName v) : Writable v
  /-- A list. -/
  | list {items : List Value} (items_writable : ∀ v ∈ items, Writable v) : Writable (.list items)
  /-- An object. -/
  | mapping {entries : List (Value × Value)} (names : ∀ e ∈ entries, IsName e.1)
      (values_writable : ∀ e ∈ entries, Writable e.2) : Writable (.mapping entries)

/-! ### Writing -/

section Writing

variable {limited : Bool}

lemma IsName.exists_write {v : Value} (h : IsName v) (out : String) :
    ∃ out', write limited out v = .ok out' := by
  cases h with
  | text s => exact ⟨_, by rw [write]⟩
  | torn gs => exact ⟨_, by rw [write]⟩

lemma IsName.exists_printKey (limited : Bool) {v : Value} (h : IsName v) :
    ∃ key, printKey limited v = .ok key := by
  cases h with
  | text s => exact ⟨_, rfl⟩
  | torn gs => exact ⟨_, rfl⟩

/-- A list is written if its items are. -/
lemma exists_writeItems {items : List Value}
    (h : ∀ v ∈ items, ∀ out, ∃ out', write limited out v = .ok out') (out : String) (first : Bool) :
    ∃ out', writeItems limited out first items = .ok out' := by
  induction items generalizing out first with
  | nil => exact ⟨out, by rw [writeItems]⟩
  | cons v rest ih =>
      obtain ⟨out₁, hout₁⟩ := h v (by simp) (if first then out else out.push ',')
      obtain ⟨out₂, hout₂⟩ := ih (fun u hu => h u (by simp [hu])) out₁ false
      exact ⟨out₂, by simp [writeItems, hout₁, hout₂, bind, Except.bind]⟩

/-- An object is written if its values are. -/
lemma exists_writeEntries {entries : List (Value × Value)} (hnames : ∀ e ∈ entries, IsName e.1)
    (h : ∀ e ∈ entries, ∀ out, ∃ out', write limited out e.2 = .ok out') (out : String)
    (first : Bool) : ∃ out', writeEntries limited out first entries = .ok out' := by
  induction entries generalizing out first with
  | nil => exact ⟨out, by rw [writeEntries]⟩
  | cons e rest ih =>
      obtain ⟨name, v⟩ := e
      obtain ⟨key, hkey⟩ := (hnames (name, v) (by simp)).exists_printKey limited
      obtain ⟨out₁, hout₁⟩ := h (name, v) (by simp)
        (((if first then out else out.push ',') ++ key).push ':')
      obtain ⟨out₂, hout₂⟩ := ih (fun u hu => hnames u (by simp [hu]))
        (fun u hu => h u (by simp [hu])) out₁ false
      exact ⟨out₂, by simp [writeEntries, hkey, hout₁, hout₂, bind, Except.bind]⟩

/-- A writable value is written, whatever stands before it. -/
theorem Writable.exists_write {v : Value} (h : Writable v) (out : String) :
    ∃ out', write limited out v = .ok out' := by
  induction h generalizing out with
  | null => exact ⟨_, by rw [write]⟩
  | bool b => exact ⟨_, by rw [write]⟩
  | @int n hshort => exact ⟨out ++ printInt n, by simp [write, printInteger, hshort, bind, Except.bind]⟩
  | float x => exact ⟨_, by rw [write]⟩
  | name hname => exact hname.exists_write out
  | list _ ih =>
      obtain ⟨out', hout'⟩ := exists_writeItems ih (out.push '[') true
      exact ⟨out'.push ']', by simp [write, hout', bind, Except.bind]⟩
  | mapping hnames _ ih =>
      obtain ⟨out', hout'⟩ := exists_writeEntries hnames ih (out.push '\x7b') true
      exact ⟨out'.push '\x7d', by simp [write, hout', bind, Except.bind]⟩

end Writing

/-- A writable value has a size on the wire. -/
theorem Writable.exists_size {v : Value} (h : Writable v) : ∃ n, size v = .ok n := by
  obtain ⟨text, htext⟩ : ∃ text, write true "" v = .ok text := h.exists_write ""
  exact ⟨text.utf8ByteSize, by rw [size, print, htext]; rfl⟩

/-! ### Displaying -/

lemma IsName.isTooLong_eq_false {v : Value} (h : IsName v) : v.isTooLong = false := by
  cases h <;> rfl

/-- No integer of a writable value is too long, at any depth. -/
lemma Writable.isTooLong_eq_false {v : Value} (h : Writable v) : v.isTooLong = false := by
  induction h with
  | null | bool | float => rfl
  | int hshort => exact hshort
  | name hname => exact hname.isTooLong_eq_false
  | @list items _ ih =>
      rw [Value.isTooLong]
      induction items with
      | nil => rfl
      | cons v rest ihrest => grind [Value.anyTooLong]
  | @mapping entries hnames _ ih =>
      rw [Value.isTooLong]
      induction entries with
      | nil => rfl
      | cons e rest ihrest => grind [Value.anyEntryTooLong, IsName.isTooLong_eq_false]

/-- A writable value can be displayed. -/
lemma Writable.shown {v : Value} (h : Writable v) : v.shown = .ok v.display := by
  rw [Value.shown, h.isTooLong_eq_false]
  rfl

/-- What stands under a name of a writable object is writable. -/
lemma Writable.get {entries : List (Value × Value)} (h : Writable (.mapping entries))
    (name : String) : Writable (Value.get entries name) := by
  cases h with
  | name isName => cases isName
  | mapping _ hvalues =>
      rw [Value.get, Value.lookup?]
      cases hfound : entries.find? fun e => e.1.same (.text name) with
      | none => exact .null
      | some e => exact hvalues e (List.mem_of_find?_eq_some hfound)

/-! ### Reading -/

/-- Digits write a number below the power of ten that has one more digit. -/
lemma ofDigits_lt (digits : List Nat) (h : ∀ d ∈ digits, d < 10) :
    ofDigits 10 digits < 10 ^ digits.length := by
  have hfold : ∀ n, digits.foldl (fun n d => n * 10 + d) n < (n + 1) * 10 ^ digits.length := by
    induction digits with
    | nil => simp
    | cons d rest ih =>
        intro n
        have hd : d < 10 := h d (by simp)
        calc (d :: rest).foldl (fun n d => n * 10 + d) n
            < (n * 10 + d + 1) * 10 ^ rest.length := ih (fun e he => h e (by simp [he])) _
          _ ≤ (n + 1) * 10 * 10 ^ rest.length := Nat.mul_le_mul_right _ (by omega)
          _ = (n + 1) * 10 ^ (d :: rest).length := by rw [List.length_cons, Nat.pow_succ]; ring
  simpa [ofDigits] using hfold 0

lemma sub_lt_of_isAsciiDigit {c : Char} (h : isAsciiDigit c = true) : c.toNat - 48 < 10 := by
  have hle : c.toNat ≤ 57 := by
    simp only [isAsciiDigit, Bool.and_eq_true, decide_eq_true_eq] at h
    exact h.2
  omega

/-- A number that is written with as many digits as may be is not too long. -/
lemma exceedsDigitLimit_eq_false {n : Int} (h : n.natAbs < 10 ^ digitLimit) :
    exceedsDigitLimit n = false := by
  rw [exceedsDigitLimit, ← Nat.pow_eq] at *
  generalize Nat.pow 10 digitLimit = bound at h ⊢
  simp [Nat.not_le_of_lt h]

lemma isName_ofGlyphs (gs : List Glyph) : IsName (.ofGlyphs gs) := by
  unfold Value.ofGlyphs
  split
  · exact .text _
  · exact .torn _

lemma isName_of_readText {start cs rest : List Char} {fuel : Nat} {before : List Glyph} {v : Value}
    (h : readText start fuel before cs = .ok (v, rest)) : IsName v := by
  induction fuel generalizing before cs with
  | zero => simp [readText, stop] at h
  | succ fuel ih =>
      cases cs with
      | nil => simp [readText, stop] at h
      | cons c cs =>
          rw [readText] at h
          split at h
          · obtain ⟨rfl, -⟩ := Prod.mk.inj (Except.ok.inj h)
            exact isName_ofGlyphs _
          · split at h
            · split at h
              · exact ih h
              · simp at h
            · split at h
              · simp [stop] at h
              · exact ih h

lemma writable_of_readKeyword? {cs rest : List Char} {v : Value}
    (h : readKeyword? cs = some (v, rest)) : Writable v := by
  obtain ⟨⟨word, u⟩, hmem, hfound⟩ := List.exists_of_findSome?_eq_some h
  dsimp only at hfound
  split at hfound
  · obtain ⟨rfl, -⟩ := Prod.mk.inj (Option.some.inj hfound)
    simp only [keywords, List.mem_cons, Prod.mk.injEq, List.not_mem_nil, or_false] at hmem
    rcases hmem with ⟨-, rfl⟩ | ⟨-, rfl⟩ | ⟨-, rfl⟩ | ⟨-, rfl⟩ | ⟨-, rfl⟩ | ⟨-, rfl⟩
    · exact .null
    · exact .bool true
    · exact .bool false
    all_goals exact .float _
  · simp at hfound

/-- The digits in front of a number, of which there is one at least if it starts with a zero. -/
lemma isAsciiDigit_of_mem_whole {body whole rest : List Char}
    (h : (match body with
      | '0' :: r => (['0'], r)
      | r => r.span isAsciiDigit) = (whole, rest)) : ∀ c ∈ whole, isAsciiDigit c = true := by
  intro c hc
  split at h
  · obtain ⟨rfl, -⟩ := Prod.mk.inj h
    obtain rfl := List.mem_singleton.1 hc
    decide
  · rw [List.span_eq_takeWhile_dropWhile] at h
    obtain ⟨rfl, -⟩ := Prod.mk.inj h
    exact List.mem_takeWhile_imp hc

/-- An integer with as many digits as may be is writable, whatever its sign. -/
lemma writable_int {whole : List Char} (hdigits : ∀ c ∈ whole, isAsciiDigit c = true)
    (hlength : whole.length ≤ digitLimit) (neg : Bool) :
    Writable (.int (if neg then -Int.ofNat (ofDigits 10 (whole.map fun c => c.toNat - 48))
      else Int.ofNat (ofDigits 10 (whole.map fun c => c.toNat - 48)))) := by
  have hlt : ofDigits 10 (whole.map fun c => c.toNat - 48) < 10 ^ whole.length := by
    simpa using ofDigits_lt (whole.map fun c => c.toNat - 48) (by
      simpa using fun c hc => sub_lt_of_isAsciiDigit (hdigits c hc))
  refine .int (exceedsDigitLimit_eq_false (lt_of_lt_of_le ?_ (Nat.pow_le_pow_right (by decide) hlength)))
  cases neg <;> simpa using hlt

lemma writable_of_readNumber {limits : Limits} (hlimits : limits.digits = some digitLimit)
    {cs rest : List Char} {v : Value} (h : readNumber limits cs = .ok (v, rest)) : Writable v := by
  unfold readNumber at h
  split at h
  next neg body _ =>
  split at h
  next whole rest₁ hwhole =>
  split at h
  · simp [stop] at h
  split at h
  next fraction rest₂ _ =>
  split at h
  next exponent rest₃ _ =>
  dsimp only at h
  split at h
  · next hinteger =>
      obtain rfl : fraction = [] := by simpa using (Bool.and_eq_true_iff.1 hinteger).1
      split at h
      · simp [stop] at h
      · next hlimit =>
          obtain ⟨rfl, -⟩ := Prod.mk.inj (Except.ok.inj h)
          rw [hlimits, Option.any_some, decide_eq_true_iff, Nat.not_lt] at hlimit
          rw [List.append_nil]
          exact writable_int (isAsciiDigit_of_mem_whole hwhole) hlimit neg
  · obtain ⟨rfl, -⟩ := Prod.mk.inj (Except.ok.inj h)
    exact .float _

/-- Putting a value at a key brings in no other keys and no other values. -/
lemma of_mem_put {α : Type} {entries : List (Value × α)} {key : Value} {value : α} {e : Value × α}
    (h : e ∈ Value.put entries key value) :
    e.1 ∈ key :: entries.map Prod.fst ∧ e.2 ∈ value :: entries.map Prod.snd := by
  induction entries with
  | nil =>
      obtain rfl : e = (key, value) := by simpa [Value.put] using h
      simp
  | cons x rest ih =>
      rw [Value.put] at h
      split at h
      · rcases List.mem_cons.1 h with rfl | h
        · simp
        · exact ⟨by simp [List.mem_map_of_mem h], by simp [List.mem_map_of_mem h]⟩
      · rcases List.mem_cons.1 h with rfl | h
        · simp
        · obtain ⟨hkey, hvalue⟩ := ih h
          simp only [List.map_cons, List.mem_cons] at hkey hvalue ⊢
          exact ⟨hkey.imp_right .inr, hvalue.imp_right .inr⟩

/-- Within a list or an object the limit of digits is the same. -/
lemma Limits.digits_inside {limits inner : Limits} (h : limits.inside? = some inner) :
    inner.digits = limits.digits := by
  unfold Limits.inside? at h
  split at h
  · rw [← Option.some.inj h]
  · simp at h
  · rw [← Option.some.inj h]

/-- The readers of nested values, given some fuel and the limit of digits, return writable values if
what they are given is writable. -/
structure ReadsWritable (fuel : Nat) : Prop where
  value : ∀ {limits : Limits} {cs rest : List Char} {v : Value}, limits.digits = some digitLimit →
    readValue limits fuel cs = .ok (v, rest) → Writable v
  items : ∀ {limits : Limits} {before : List Value} {cs rest : List Char} {v : Value},
    limits.digits = some digitLimit → (∀ u ∈ before, Writable u) →
      readItems limits fuel before cs = .ok (v, rest) → Writable v
  entries : ∀ {limits : Limits} {before : List (Value × Value)} {cs rest : List Char} {v : Value},
    limits.digits = some digitLimit → (∀ e ∈ before, IsName e.1) → (∀ e ∈ before, Writable e.2) →
      readEntries limits fuel before cs = .ok (v, rest) → Writable v

namespace ReadsWritable

variable {fuel : Nat} {limits : Limits} {cs rest : List Char} {v : Value}

lemma zero : ReadsWritable 0 where
  value _ h := by simp [readValue, stop] at h
  items _ _ h := by simp [readItems, stop] at h
  entries _ _ _ h := by simp [readEntries, stop] at h

lemma value_succ (ih : ReadsWritable fuel) (hlimits : limits.digits = some digitLimit)
    (h : readValue limits (fuel + 1) cs = .ok (v, rest)) : Writable v := by
  unfold readValue at h
  split at h
  · exact .name (isName_of_readText h)
  · split at h
    · simp [stop] at h
    · obtain ⟨rfl, -⟩ := Prod.mk.inj (Except.ok.inj h)
      exact .mapping (by simp) (by simp)
    · next inner _ hinner _ =>
        exact ih.entries ((Limits.digits_inside hinner).trans hlimits) (by simp) (by simp) h
  · split at h
    · simp [stop] at h
    · obtain ⟨rfl, -⟩ := Prod.mk.inj (Except.ok.inj h)
      exact .list (by simp)
    · next inner _ hinner _ =>
        exact ih.items ((Limits.digits_inside hinner).trans hlimits) (by simp) h
  · split at h
    · next hkeyword =>
        obtain rfl := Except.ok.inj h
        exact writable_of_readKeyword? hkeyword
    · exact writable_of_readNumber hlimits h

lemma items_succ (ih : ReadsWritable fuel) (hlimits : limits.digits = some digitLimit)
    {before : List Value} (hbefore : ∀ u ∈ before, Writable u)
    (h : readItems limits (fuel + 1) before cs = .ok (v, rest)) : Writable v := by
  unfold readItems at h
  split at h
  · simp at h
  · next item _ hitem =>
      have hall : ∀ u ∈ item :: before, Writable u :=
        List.forall_mem_cons.2 ⟨ih.value hlimits hitem, hbefore⟩
      split at h
      · obtain ⟨rfl, -⟩ := Prod.mk.inj (Except.ok.inj h)
        exact .list fun u hu => hall u (List.mem_reverse.1 hu)
      · exact ih.items hlimits hall h
      · simp [stop] at h

lemma entries_succ (ih : ReadsWritable fuel) (hlimits : limits.digits = some digitLimit)
    {before : List (Value × Value)} (hnames : ∀ e ∈ before, IsName e.1)
    (hvalues : ∀ e ∈ before, Writable e.2)
    (h : readEntries limits (fuel + 1) before cs = .ok (v, rest)) : Writable v := by
  unfold readEntries at h
  split at h
  · split at h
    · simp at h
    · next name _ hname =>
        split at h
        · split at h
          · simp at h
          · next value _ hvalue =>
              have hput : ∀ e ∈ Value.put before name value, IsName e.1 ∧ Writable e.2 := by
                intro e he
                obtain ⟨hkey, hentry⟩ := of_mem_put he
                constructor
                · refine List.forall_mem_cons.2 ⟨isName_of_readText hname, ?_⟩ _ hkey
                  simpa using fun k u hu => hnames (k, u) hu
                · refine List.forall_mem_cons.2 ⟨ih.value hlimits hvalue, ?_⟩ _ hentry
                  simpa using fun u k hu => hvalues (k, u) hu
              dsimp only at h
              split at h
              · obtain ⟨rfl, -⟩ := Prod.mk.inj (Except.ok.inj h)
                exact .mapping (fun e he => (hput e he).1) fun e he => (hput e he).2
              · exact ih.entries hlimits (fun e he => (hput e he).1) (fun e he => (hput e he).2) h
              · simp [stop] at h
        · simp [stop] at h
  · simp [stop] at h

/-- The readers call each other with less fuel. -/
theorem of_fuel (fuel : Nat) : ReadsWritable fuel := by
  induction fuel with
  | zero => exact zero
  | succ fuel ih =>
      exact ⟨ih.value_succ, fun hlimits => ih.items_succ hlimits, fun hlimits => ih.entries_succ hlimits⟩

end ReadsWritable

/-- A value that was read within the limit of digits is writable. -/
theorem writable_of_read {limits : Limits} (hlimits : limits.digits = some digitLimit)
    {text : String} {v : Value} (h : read limits text = .ok v) : Writable v := by
  have hchars : readChars limits text.toList = .ok v := by
    rw [read] at h
    rcases hread : readChars limits text.toList with stop | u
    · simp [hread, Except.mapError] at h
    · rw [hread] at h
      rw [Except.ok.inj h]
  unfold readChars at hchars
  split at hchars
  · simp [stop] at hchars
  · obtain ⟨⟨u, rest⟩, hu, hrest⟩ := exists_of_bind_eq_ok hchars
    dsimp only at hrest
    split at hrest
    · obtain rfl := Except.ok.inj hrest
      exact (ReadsWritable.of_fuel _).value hlimits hu
    · simp [stop] at hrest

end TableFeed.Json
