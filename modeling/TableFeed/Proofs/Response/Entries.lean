import TableFeed.Proofs.Failure.Results
import TableFeed.Table.Response

/-!
# What is read from a response

The service may leave out almost everything of an entry, or give an empty text for it.  What it gives
is described here apart from the reader: `Rejection.Response` and the predicates before it say which
responses are well formed, and `Rejection.Conveys` says what a rejection has to hold of the entry that
it is made of.  The index of an entry may be anything.

The main result is `Rejection.exists_ofResponse`: a well formed response is read, entry by entry, and
each rejection conveys its entry.
-/

namespace TableFeed.Rejection

open Text

variable {v : Value} {s t : Writing} {entries : List (Value × Value)} {details : List Value}

/-! ### Texts -/

/-- A text, as it is held and as it is joined to others. -/
inductive Spells : Value → Writing → Prop where
  /-- A text. -/
  | text (s : String) : Spells (.text s) s
  /-- A text in which half of a pair stands alone. -/
  | torn (gs : List Glyph) : Spells (.torn gs) ⟨gs⟩

/-- A value that says nothing: it is absent, or an empty text. -/
def Wordless (v : Value) : Prop := v = .null ∨ Spells v ""

/-- A text that may be missing. -/
def Worded (v : Value) : Prop := v = .null ∨ ∃ s, Spells v s

lemma Spells.isGiven_iff (h : Spells v s) : v.isGiven = true ↔ s ≠ "" := by
  cases h with
  | text s => simp [Value.isGiven]
  | torn gs =>
      rw [ne_eq, ← Writing.isEmpty_iff]
      simp [Value.isGiven, Writing.isEmpty]

/-- A text that may be missing either says nothing or is a text that is not empty. -/
lemma Worded.cases (h : Worded v) :
    Wordless v ∧ v.isGiven = false ∨ ∃ s, Spells v s ∧ s ≠ "" ∧ v.isGiven = true := by
  rcases h with rfl | ⟨s, hs⟩
  · exact .inl ⟨.inl rfl, rfl⟩
  · cases hgiven : v.isGiven with
    | true => exact .inr ⟨s, hs, hs.isGiven_iff.1 hgiven, rfl⟩
    | false =>
        obtain rfl : s = "" := by
          by_contra hne
          simp [hs.isGiven_iff.2 hne] at hgiven
        exact .inl ⟨.inr hs, rfl⟩

/-! ### Well formed responses -/

/-- The items of a list, if there is one. -/
def itemsOf : Value → List Value
  | .list items => items
  | _ => []

/-- A list of items of some kind, which may be missing. -/
inductive Lists (P : Value → Prop) : Value → Prop where
  /-- There is no list. -/
  | missing : Lists P .null
  /-- There is a list. -/
  | list {items : List Value} (each : ∀ item ∈ items, P item) : Lists P (.list items)

/-- A detail whose message and reason are texts that may be missing. -/
inductive Detail : Value → Prop where
  | mapping {entries : List (Value × Value)} (message : Worded (.get entries "message"))
      (reason : Worded (.get entries "reason")) : Detail (.mapping entries)

/-- An entry: a mapping with a list of details, which may be missing, and any index. -/
inductive Entry : Value → Prop where
  | mapping {entries : List (Value × Value)} (details : Lists Detail (.get entries "errors")) :
      Entry (.mapping entries)

/-- A well formed response is a list of entries, which may be missing. -/
abbrev Response : Value → Prop := Lists Entry

/-- The index that an entry gives. -/
def indexAt : Value → Value
  | .mapping entries => .get entries "index"
  | _ => .null

/-! ### What a rejection holds -/

/-- The text of a detail: its message, else its reason, else the word for neither. -/
inductive Says : Value → Writing → Prop where
  /-- There is a message. -/
  | message {entries : List (Value × Value)} {s : Writing}
      (spelled : Spells (.get entries "message") s) (ne : s ≠ "") : Says (.mapping entries) s
  /-- There is no message, but a reason. -/
  | reason {entries : List (Value × Value)} {s : Writing}
      (speechless : Wordless (.get entries "message"))
      (spelled : Spells (.get entries "reason") s) (ne : s ≠ "") : Says (.mapping entries) s
  /-- There is neither. -/
  | nothing {entries : List (Value × Value)} (speechless : Wordless (.get entries "message"))
      (groundless : Wordless (.get entries "reason")) : Says (.mapping entries) unknown

/-- The message of an entry with given details. -/
inductive Joins : List Value → Writing → Prop where
  /-- There are no details. -/
  | none : Joins [] unknown
  /-- The texts of the details are joined. -/
  | some {details : List Value} {texts : List Writing} (ne : details ≠ [])
      (said : List.Forall₂ Says details texts) : Joins details (Writing.intercalate "; " texts)

/-- The first reason that some details give, or the absent value. -/
inductive FirstReason : List Value → Value → Prop where
  /-- There are no details. -/
  | none : FirstReason [] .null
  /-- The first detail gives a reason. -/
  | here {entries : List (Value × Value)} {rest : List Value} {s : Writing}
      (spelled : Spells (.get entries "reason") s) (ne : s ≠ "") :
      FirstReason (.mapping entries :: rest) (.get entries "reason")
  /-- The first detail gives none. -/
  | later {entries : List (Value × Value)} {rest : List Value} {v : Value}
      (groundless : Wordless (.get entries "reason")) (found : FirstReason rest v) :
      FirstReason (.mapping entries :: rest) v

/-- A rejection that holds what an entry says. -/
inductive Conveys : Value → Rejection → Prop where
  | mapping {entries : List (Value × Value)} {message : Writing} {reason : Value}
      (joins : Joins (itemsOf (.get entries "errors")) message) (nonempty : message ≠ "")
      (first : FirstReason (itemsOf (.get entries "errors")) reason) :
      Conveys (.mapping entries) ⟨.get entries "index", message, reason⟩

lemma Conveys.index_eq {r : Rejection} (h : Conveys v r) : r.index = indexAt v := by
  cases h
  rfl

lemma Says.ne_empty (h : Says v s) : s ≠ "" := by
  cases h with
  | message _ ne => exact ne
  | reason _ _ ne => exact ne
  | nothing => decide

/-- Texts that start with one that is not empty are joined to one that is not empty. -/
lemma intercalate_ne_empty (separator : String) {texts : List Writing} (h : s ≠ "") :
    Writing.intercalate separator (s :: texts) ≠ "" := by
  rw [ne_eq, ← Writing.isEmpty_iff] at h ⊢
  cases texts with
  | nil => simpa [Writing.intercalate, Writing.isEmpty] using h
  | cons t texts =>
      simp only [Writing.isEmpty, List.isEmpty_iff] at h
      simp [Writing.intercalate, Writing.isEmpty, List.intercalate_cons_cons, h]

lemma Joins.ne_empty (h : Joins details s) : s ≠ "" := by
  cases h with
  | none => decide
  | some ne said =>
      cases said with
      | nil => exact absurd rfl ne
      | cons first _ => exact intercalate_ne_empty _ first.ne_empty

/-! ### The reader -/

/-- The message of a detail is read as one of its texts. -/
lemma Detail.exists_message (h : Detail v) :
    ∃ m, detailMessage v = .ok m ∧ ∃ s, Spells m s ∧ Says v s := by
  cases h with
  | @mapping entries hmessage hreason =>
      have heq : detailMessage (.mapping entries) =
          .ok (orElse (orElse (.get entries "message") (.get entries "reason"))
            (.text unknown)) := rfl
      rw [heq]
      rcases hmessage.cases with ⟨hspeechless, hm⟩ | ⟨s, hs, hne, hm⟩
      · rcases hreason.cases with ⟨hgroundless, hr⟩ | ⟨s, hs, hne, hr⟩
        · refine ⟨.text unknown, ?_, unknown, .text unknown, .nothing hspeechless hgroundless⟩
          simp [orElse, hm, hr]
        · refine ⟨.get entries "reason", ?_, s, hs, .reason hspeechless hs hne⟩
          simp [orElse, hm, hr]
      · refine ⟨.get entries "message", ?_, s, hs, .message hs hne⟩
        simp [orElse, hm]

/-- Texts are joined, however they are held. -/
lemma joinFrom_of_spells {messages : List Value} {texts : List Writing}
    (h : List.Forall₂ Spells messages texts) (position : Nat) :
    joinFrom position messages = .ok texts := by
  induction h generalizing position with
  | nil => rfl
  | cons first _ ih =>
      cases first with
      | text s => simp [joinFrom, ih, bind, Except.bind]
      | torn gs => simp [joinFrom, ih, bind, Except.bind]

/-- The messages of details are read and joined. -/
lemma exists_joined (h : ∀ d ∈ details, Detail d) :
    ∃ messages message, details.mapM detailMessage = .ok messages ∧
      joined messages = .ok message ∧ Joins details message := by
  obtain ⟨messages, hmessages, hall⟩ := exists_mapM fun d hd => (h d hd).exists_message
  cases hall with
  | nil => exact ⟨[], unknown, hmessages, rfl, .none⟩
  | @cons d m rest messages hfirst hrest =>
      have hsaid : ∃ texts, List.Forall₂ Spells (m :: messages) texts ∧
          List.Forall₂ Says (d :: rest) texts := by
        clear hmessages h
        obtain ⟨s, hs, hsays⟩ := hfirst
        induction hrest generalizing d m s with
        | nil => exact ⟨[s], .cons hs .nil, .cons hsays .nil⟩
        | cons hnext _ ih =>
            obtain ⟨t, ht, hsays'⟩ := hnext
            obtain ⟨texts, hspelled, hsaid⟩ := ih t ht hsays'
            exact ⟨s :: texts, .cons hs hspelled, .cons hsays hsaid⟩
      obtain ⟨texts, hspelled, hsaid⟩ := hsaid
      refine ⟨m :: messages, _, hmessages, ?_, .some (by simp) hsaid⟩
      simp [joined, joinFrom_of_spells hspelled, bind, Except.bind]

/-- The reasons of details are read, and the first one is found. -/
lemma exists_reasons (h : ∀ d ∈ details, Detail d) :
    ∃ reasons, details.mapM detailReason? = .ok reasons ∧
      FirstReason details ((reasons.findSome? id).getD .null) := by
  induction details with
  | nil => exact ⟨[], rfl, .none⟩
  | cons d rest ih =>
      obtain ⟨reasons, hreasons, hfirst⟩ := ih fun d' hd' => h d' (by simp [hd'])
      obtain @⟨entries, hmessage, hreason⟩ := h d (by simp)
      have hmapM : (Value.mapping entries :: rest).mapM detailReason? =
          .ok ((if (Value.get entries "reason").isGiven then some (Value.get entries "reason")
            else none) :: reasons) := by
        rw [List.mapM_cons, hreasons]
        rfl
      rcases hreason.cases with ⟨hgroundless, hr⟩ | ⟨s, hs, hne, hr⟩
      · rw [hr] at hmapM
        exact ⟨_, hmapM, .later hgroundless hfirst⟩
      · rw [hr] at hmapM
        exact ⟨_, hmapM, .here hs hne⟩

lemma Lists.parts_eq {P : Value → Prop} (h : Lists P v) :
    (orElse v (.list [])).parts = .ok (itemsOf v) := by
  cases h with
  | missing => rfl
  | @list items _ => cases items <;> rfl

lemma Lists.each {P : Value → Prop} (h : Lists P v) : ∀ item ∈ itemsOf v, P item := by
  cases h with
  | missing => simp [itemsOf]
  | list each => exact each

/-- A list has no items if it is empty or missing. -/
lemma Lists.itemsOf_eq_nil_iff {P : Value → Prop} (h : Lists P v) :
    itemsOf v = [] ↔ v = .null ∨ v = .list [] := by
  cases h <;> simp [itemsOf]

/-- An entry is read, and what is made of it conveys it. -/
lemma Entry.exists_ofEntry (h : Entry v) : ∃ r, ofEntry v = .ok r ∧ Conveys v r := by
  cases h with
  | @mapping entries details =>
      obtain ⟨messages, message, hmessages, hjoined, hjoins⟩ := exists_joined details.each
      obtain ⟨reasons, hreasons, hfirst⟩ := exists_reasons details.each
      refine ⟨_, ?_, .mapping hjoins hjoins.ne_empty hfirst⟩
      simp [ofEntry, Value.entries, details.parts_eq, hmessages, hreasons, hjoined, bind, Except.bind]

/-- A response is read entry by entry. -/
theorem exists_ofResponse (h : Response v) :
    ∃ report, ofResponse v = .ok report ∧ List.Forall₂ Conveys (itemsOf v) report := by
  obtain ⟨report, hreport, hall⟩ := exists_mapM fun item hitem => (h.each item hitem).exists_ofEntry
  refine ⟨report, ?_, hall⟩
  simp [ofResponse, h.parts_eq, hreport, bind, Except.bind]

end TableFeed.Rejection
