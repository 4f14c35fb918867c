import Vigiscam.Registry.Search

/-!
# What the cache keys of the registry tell apart

A cache key joins the texts of a query with `|`, of which `q` is lower-cased. It leaves two
things open: the texts may hold a `|` themselves, so that other texts join to the same key
(`spelled`), and some queries tell two `q` apart that have one lower case. Queries that agree
on both ask the same (`SameQuestion`), and have the same answer (`answer_congr`).

`cached_answers`: where the queries with one key ask the same, cached search is the search of
the database.
-/

namespace Registry

open Js Concurrency Common
open ScamSignals (normalizeIndicator normalizePhone normalizeWallet)

/-- A wallet address that is compared in lower case. -/
def isEvm (v : Text) : Bool := (utf16 "0x").isPrefixOf v || (utf16 "0X").isPrefixOf v

/-- What `toLowerCase` leaves of a text. -/
structure LowerCaseLaws (toLowerCase : Text → Text) : Prop where
  nil_iff : ∀ s, toLowerCase s = [] ↔ s = []
  digits : ∀ s, (toLowerCase s).filter (isDigit ·) = s.filter (isDigit ·)
  plus : ∀ s, (utf16 "+").isPrefixOf (toLowerCase s) = (utf16 "+").isPrefixOf s
  evm : ∀ s, (utf16 "0x").isPrefixOf (toLowerCase s) = isEvm s

section Keys

variable (p : Platform)

/-- The texts of a query as the cache key has them, one after the other. -/
def spelled (query : RegistrySearchQuery) : Text :=
  p.toLowerCase query.text ++ utf16 "|t=" ++ query.type.getD []
    ++ utf16 "|c=" ++ query.category.getD []

/-- Two queries that ask the same: they have the same type and category; where they look for a
wallet that is not compared in lower case, the same `q`; and where they look for any type, `q`
with the same lower case in the database. -/
structure SameQuestion (x y : RegistrySearchQuery) : Prop where
  type : x.type.getD [] = y.type.getD []
  category : x.category.getD [] = y.category.getD []
  wallet : parseType p x.type = some .cryptoWallet → isEvm x.text = false → x.text = y.text
  anyType : parseType p x.type = none → p.lower x.text = p.lower y.text

/-- Queries for one page that read the same one after the other ask the same. -/
def ToldApart (x y : RegistrySearchQuery) : Prop :=
  x.pageNumber = y.pageNumber → x.pageSize = y.pageSize → spelled p x = spelled p y →
    SameQuestion p x y

instance (x y : RegistrySearchQuery) : Decidable (SameQuestion p x y) :=
  decidable_of_iff (x.type.getD [] = y.type.getD [] ∧ x.category.getD [] = y.category.getD [] ∧
      (parseType p x.type = some .cryptoWallet → isEvm x.text = false → x.text = y.text) ∧
      (parseType p x.type = none → p.lower x.text = p.lower y.text))
    ⟨fun h => ⟨h.1, h.2.1, h.2.2.1, h.2.2.2⟩,
      fun h => ⟨h.type, h.category, h.wallet, h.anyType⟩⟩

instance (x y : RegistrySearchQuery) : Decidable (ToldApart p x y) :=
  inferInstanceAs (Decidable (_ → _))

variable {p} {x y : RegistrySearchQuery}

/-! ## What a key determines -/

theorem buildCacheKey_eq_spelled (query : RegistrySearchQuery) :
    buildCacheKey p query = (SEARCH_CACHE_PREFIX ++ utf16 "|q=") ++ spelled p query
      ++ utf16 "|p=" ++ (Number.ofInt query.pageNumber).toText
      ++ utf16 "|l=" ++ (Number.ofInt query.pageSize).toText := by
  simp only [buildCacheKey, spelled, List.append_assoc]

/-- The equals sign before a number is no part of it. -/
theorem stops_equals (r : Text) (c d : CodeUnit) :
    Stops Number.isNumberUnit (r ++ [c, d, 0x3D]).reverse := by
  rw [List.reverse_append]
  exact (by decide : ¬ Number.isNumberUnit 0x3D)

/-- **What a cache key determines**: the page, and the texts one after the other. -/
theorem buildCacheKey_eq (h : buildCacheKey p x = buildCacheKey p y) :
    x.pageNumber = y.pageNumber ∧ x.pageSize = y.pageSize ∧ spelled p x = spelled p y := by
  have hpage : utf16 "|p=" = [0x7C, 0x70, 0x3D] := by decide
  have hlimit : utf16 "|l=" = [0x7C, 0x6C, 0x3D] := by decide
  rw [buildCacheKey_eq_spelled, buildCacheKey_eq_spelled, hpage, hlimit] at h
  obtain ⟨h, hl⟩ := Number.append_toText_inj (stops_equals ..) (stops_equals ..) h
  obtain ⟨h, hp⟩ := Number.append_toText_inj (stops_equals ..) (stops_equals ..)
    (List.append_cancel_right h)
  exact ⟨Number.ofInt_inj hp, Number.ofInt_inj hl,
    List.append_cancel_left (List.append_cancel_right h)⟩

/-! ## Queries that ask the same -/

/-- Texts that are not told apart, of the same type and category, have one lower case. -/
theorem lower_text_eq (h : spelled p x = spelled p y) (hsame : SameQuestion p x y) :
    p.toLowerCase x.text = p.toLowerCase y.text := by
  rw [spelled, spelled, hsame.type, hsame.category] at h
  exact List.append_cancel_right (List.append_cancel_right
    (List.append_cancel_right (List.append_cancel_right h)))

theorem present_congr {s t : Option Text} (h : s.getD [] = t.getD []) : present s = present t := by
  cases s with
  | none =>
    cases t with
    | none => rfl
    | some t => rw [show t = [] from h.symm]; rfl
  | some s =>
    cases t with
    | none => rw [show s = [] from h]; rfl
    | some t => rw [show s = t from h]

theorem SameQuestion.parseType (hsame : SameQuestion p x y) :
    parseType p x.type = parseType p y.type := by
  rw [Registry.parseType, Registry.parseType, present_congr hsame.type]

theorem normalizePhone_congr (hlower : LowerCaseLaws p.toLowerCase) {a b : Text}
    (h : p.toLowerCase (trim a) = p.toLowerCase (trim b)) :
    normalizePhone a = normalizePhone b := by
  have hdigits : (trim a).filter (isDigit ·) = (trim b).filter (isDigit ·) := by
    rw [← hlower.digits (trim a), h, hlower.digits]
  have hplus : (utf16 "+").isPrefixOf (trim a) = (utf16 "+").isPrefixOf (trim b) := by
    rw [← hlower.plus (trim a), h, hlower.plus]
  simp only [normalizePhone, hdigits, hplus]

theorem normalizeWallet_congr (hlower : LowerCaseLaws p.toLowerCase) {a b : Text}
    (h : p.toLowerCase (trim a) = p.toLowerCase (trim b))
    (hwallet : isEvm (trim a) = false → trim a = trim b) :
    normalizeWallet p.toLowerCase a = normalizeWallet p.toLowerCase b := by
  have hevm : isEvm (trim a) = isEvm (trim b) := by
    rw [← hlower.evm (trim a), h, hlower.evm]
  show (if isEvm (trim a) then p.toLowerCase (trim a) else trim a)
    = if isEvm (trim b) then p.toLowerCase (trim b) else trim b
  cases ha : isEvm (trim a) with
  | false => rw [← hevm, ha, hwallet ha]
  | true => rw [← hevm, ha, if_pos rfl, if_pos rfl, h]

/-- Every other type is compared in lower case. -/
theorem normalizeIndicator_congr (hlower : LowerCaseLaws p.toLowerCase) {type : IndicatorType}
    {a b : Text} (h : p.toLowerCase (trim a) = p.toLowerCase (trim b))
    (hwallet : type = .cryptoWallet → isEvm (trim a) = false → trim a = trim b) :
    normalizeIndicator p.toLowerCase type a = normalizeIndicator p.toLowerCase type b := by
  cases type with
  | phone => exact normalizePhone_congr hlower h
  | cryptoWallet => exact normalizeWallet_congr hlower h (hwallet rfl)
  | domain => simp only [normalizeIndicator, ScamSignals.normalizeDomain, h]
  | url => simp only [normalizeIndicator, ScamSignals.normalizeUrl, h]
  | email => simp only [normalizeIndicator, ScamSignals.normalizeEmail, h]
  | scamPhrase => simp only [normalizeIndicator, ScamSignals.normalizePhrase, h]
  | fakeCompany | socialProfile | other => exact h

theorem selectsText_congr (hlower : LowerCaseLaws p.toLowerCase) (hsame : SameQuestion p x y)
    (h : p.toLowerCase x.text = p.toLowerCase y.text) :
    selectsText p (parseType p x.type) x.text = selectsText p (parseType p y.type) y.text := by
  have hnil : x.text = [] ↔ y.text = [] := by
    rw [← hlower.nil_iff x.text, h, hlower.nil_iff]
  have htrim : ∀ query : RegistrySearchQuery, trim query.text = query.text :=
    fun query => trim_trim _
  rw [← hsame.parseType]
  cases hx : x.text with
  | nil => rw [hnil.mp hx]
  | cons c s =>
    cases hy : y.text with
    | nil => exact absurd (hnil.mpr hy) (by rw [hx]; exact List.cons_ne_nil c s)
    | cons d t =>
      funext entry
      -- without a type the text is a substring, with one the normalized indicator
      cases htype : parseType p x.type with
      | none =>
        show (_ || _) = (_ || _)
        rw [← hx, ← hy, h, hsame.anyType htype]
      | some type =>
        have hnormal : normalizeIndicator p.toLowerCase type x.text
            = normalizeIndicator p.toLowerCase type y.text := by
          refine normalizeIndicator_congr hlower ?_ fun hw => ?_
          · rw [htrim, htrim, h]
          · rw [htrim, htrim]
            exact hsame.wallet (htype.trans (congrArg some hw))
        show decide (_ = _) = decide (_ = _)
        rw [← hx, ← hy, hnormal]

/-- **Queries with one key that ask the same have the same answer.** -/
theorem answer_congr (hlower : LowerCaseLaws p.toLowerCase) (htold : ToldApart p x y)
    (hkey : buildCacheKey p x = buildCacheKey p y) : answer p x = answer p y := by
  obtain ⟨hpage, hsize, hspelled⟩ := buildCacheKey_eq hkey
  have hsame := htold hpage hsize hspelled
  have htext := selectsText_congr hlower hsame (lower_text_eq hspelled hsame)
  have hselects : selects p x = selects p y := by
    funext entry
    rw [selects, selects, htext, hsame.parseType, present_congr hsame.category]
  have hskip : x.skip = y.skip := by
    rw [RegistrySearchQuery.skip, RegistrySearchQuery.skip, hpage, hsize]
  have hrows : rowsOf p x = rowsOf p y := by
    funext entries
    rw [rowsOf, rowsOf, hselects, hskip, hsize]
  have hresult : resultOf x = resultOf y := by
    funext rows
    rw [resultOf, resultOf, hpage, hsize]
  funext entries
  rw [answer, answer, hrows, hskip, hresult]

end Keys

/-! ## Searches one after the other -/

section Sequence

variable (p : Platform)

/-- Requests come one after the other, each at its time. -/
def answers : List (Int × RegistrySearchQuery) → Store →
    List (Except HttpError RegistrySearchResult)
  | [], _ => []
  | (now, query) :: rest, s =>
    ((search p query).run { s with now }).1 :: answers rest ((search p query).run { s with now }).2

/-- A value that may be in the cache under a key: the answer of a query with that key, from
one of the tables. -/
def Cached (asked : RegistrySearchQuery → Prop) (tables : List RegistryEntry → Prop) (key : Text)
    (result : RegistrySearchResult) : Prop :=
  ∃ query, asked query ∧ key = buildCacheKey p query ∧
    ∃ entries, tables entries ∧ answer p query entries = some result

variable {p} {asked : RegistrySearchQuery → Prop} {tables : List RegistryEntry → Prop}
  {query : RegistrySearchQuery}

/-- What a query finds in the cache is its own answer. -/
theorem answer_of_cached {result : RegistrySearchResult} (hlower : LowerCaseLaws p.toLowerCase)
    (htold : ∀ x, asked x → ToldApart p x query)
    (h : Cached p asked tables (buildCacheKey p query) result) :
    ∃ entries, tables entries ∧ answer p query entries = some result := by
  obtain ⟨x, hx, hkey, entries, hentries, hanswer⟩ := h
  rw [answer_congr hlower (htold x hx) hkey.symm] at hanswer
  exact ⟨entries, hentries, hanswer⟩

/-- One search answers as the database does, and leaves answers of the database in the cache. -/
theorem search_step (hlower : LowerCaseLaws p.toLowerCase)
    (htold : ∀ x, asked x → ToldApart p x query) (hquery : asked query) {s : Store}
    (hcache : s.cache.Holds (Cached p asked (· = s.entries))) :
    ((search p query).run s).1 = ((queryDatabase p query).run s).1 ∧
      ((search p query).run s).2.entries = s.entries ∧
      ((search p query).run s).2.cache.Holds (Cached p asked (· = s.entries)) := by
  cases hget : (s.cache.get (buildCacheKey p query) s.now).1 with
  | some cached =>
    obtain ⟨entries, rfl, hanswer⟩ := answer_of_cached hlower htold (hcache.of_get hget)
    rw [run_search_hit hget, run_queryDatabase, hanswer]
    exact ⟨rfl, rfl, hcache.get⟩
  | none =>
    rw [run_search_miss hget, run_queryDatabase]
    cases hanswer : answer p query s.entries with
    | none => exact ⟨rfl, rfl, hcache.get⟩
    | some result =>
      exact ⟨rfl, rfl, hcache.get.set ⟨query, hquery, rfl, s.entries, rfl, hanswer⟩⟩

/-- **Cached search is the search of the database**, from an empty cache on, where the queries
of the sequence are told apart. -/
theorem cached_answers (hlower : LowerCaseLaws p.toLowerCase)
    (requests : List (Int × RegistrySearchQuery))
    (htold : ∀ x ∈ requests, ∀ y ∈ requests, ToldApart p x.2 y.2) (s : Store)
    (hcache : s.cache = .empty) :
    answers p requests s = requests.map fun x => ((queryDatabase p x.2).run s).1 := by
  -- the cache holds only answers to queries of the whole sequence, also in its later part
  have hrest : ∀ (rest : List (Int × RegistrySearchQuery)) (t : Store), rest ⊆ requests →
      t.entries = s.entries →
      t.cache.Holds (Cached p (∃ x ∈ requests, x.2 = ·) (· = t.entries)) →
      answers p rest t = rest.map fun x => ((queryDatabase p x.2).run s).1 := by
    intro rest
    induction rest with
    | nil => exact fun _ _ _ _ => rfl
    | cons x rest ih =>
      intro t hsub hentries hholds
      obtain ⟨hx, hsub⟩ := List.cons_subset.mp hsub
      have hx_told : ∀ query, (∃ y ∈ requests, y.2 = query) → ToldApart p query x.2 := by
        rintro _ ⟨y, hy, rfl⟩
        exact htold y hy x hx
      obtain ⟨hanswer, hsame, hholds⟩ := search_step (s := { t with now := x.1 }) hlower hx_told
        ⟨x, hx, rfl⟩ hholds
      rw [answers, List.map_cons, ih _ hsub (hsame.trans hentries) (hsame.symm ▸ hholds), hanswer,
        run_queryDatabase, run_queryDatabase]
      show _ :: _ = Option.elim (answer p x.2 s.entries) _ _ :: _
      rw [← hentries]
  refine hrest requests s (List.Subset.refl _) rfl ?_
  rw [hcache]
  exact Cache.holds_empty

end Sequence

/-! ## Texts of ASCII -/

/-- A unit that is no letter is the lower case of itself only. -/
theorem lowerUnit_eq_iff {c d : CodeUnit} (hd : d.val < 0x41) : lowerUnit c = d ↔ c = d := by
  rw [← Fin.val_inj, ← Fin.val_inj, val_lowerUnit]
  split
  · omega
  · exact Iff.rfl

theorem lowerUnit_eq_x (c : CodeUnit) : lowerUnit c = 0x78 ↔ c = 0x78 ∨ c = 0x58 := by
  rw [← Fin.val_inj, ← Fin.val_inj, ← Fin.val_inj, val_lowerUnit]
  show _ = 0x78 ↔ c.val = 0x78 ∨ c.val = 0x58
  split <;> omega

theorem filter_isDigit_lowerAscii (s : Text) :
    (lowerAscii s).filter (isDigit ·) = s.filter (isDigit ·) := by
  induction s with
  | nil => rfl
  | cons c s ih =>
    show ((lowerUnit c) :: lowerAscii s).filter (isDigit ·) = _
    rw [List.filter_cons, List.filter_cons, ih]
    by_cases hc : isDigit c
    · have hsame : lowerUnit c = c :=
        (lowerUnit_eq_iff (Nat.lt_of_le_of_lt hc.2 (by decide))).mpr rfl
      rw [hsame]
    · have hnot : ¬ isDigit (lowerUnit c) := fun h =>
        hc ((lowerUnit_eq_iff (Nat.lt_of_le_of_lt h.2 (by decide))).mp rfl ▸ h)
      simp only [hc, hnot, decide_false]
      rfl

theorem lowerCaseLaws_ascii : LowerCaseLaws lowerAscii where
  nil_iff s := List.map_eq_nil_iff
  digits := filter_isDigit_lowerAscii
  plus s := by
    cases s with
    | nil => rfl
    | cons c s =>
      have hc : lowerUnit c = 0x2B ↔ c = 0x2B := lowerUnit_eq_iff (by decide)
      show ((0x2B == lowerUnit c) && true) = ((0x2B == c) && true)
      rw [Bool.eq_iff_iff]
      simp only [Bool.and_true, beq_iff_eq, eq_comm (a := (0x2B : CodeUnit)), hc]
  evm s := by
    -- `startsWith` looks at two units: shorter texts have neither prefix
    match s with
    | [] => rfl
    | [c] =>
      show ((0x30 == lowerUnit c) && false) = (((0x30 == c) && false) || ((0x30 == c) && false))
      simp only [Bool.and_false, Bool.or_false]
    | c :: d :: s =>
      have hc : lowerUnit c = 0x30 ↔ c = 0x30 := lowerUnit_eq_iff (by decide)
      show ((0x30 == lowerUnit c) && ((0x78 == lowerUnit d) && true))
        = (((0x30 == c) && ((0x78 == d) && true)) || ((0x30 == c) && ((0x58 == d) && true)))
      rw [Bool.eq_iff_iff]
      simp only [Bool.and_true, Bool.or_eq_true, Bool.and_eq_true, beq_iff_eq,
        eq_comm (a := (0x30 : CodeUnit)), eq_comm (a := (0x78 : CodeUnit)),
        eq_comm (a := (0x58 : CodeUnit)), hc, lowerUnit_eq_x, and_or_left]

/-! ## Some searches -/

/-- A database and a runtime whose letters are those of ASCII. -/
def asciiPlatform : Platform where
  toLowerCase := lowerAscii
  toUpperCase := upperAscii
  contains value q := value.tails.any (q.isPrefixOf ·)
  lower := lowerAscii
  skips _ := true
  newDate _ := Date.sampleDay.noon

/-- A published wallet address whose letters have a case. -/
def walletEntry : RegistryEntry where
  id := "e"
  indicatorType := .cryptoWallet
  indicatorValue := "bc1qAb"
  normalizedIndicator := "bc1qAb"
  category := "INVESTMENT"
  status := .published
  publicStatus := some .highRiskVerified
  confidenceScore := 70
  publicSafeSummary := "Reported wallet"
  recommendedAction := none
  firstSeen := none
  lastSeen := none
  evidenceCount := 3
  sourceSignalId := none
  publishedAt := none
  updatedAt := Date.sampleDay.noon

def walletStore : Store where
  entries := [walletEntry]
  tenantOf _ := none
  evidence := []
  notices := []
  automated := []
  cache := .empty
  now := 0

/-- A query for the first page of a wallet address. -/
def walletQuery (q : Text) : RegistrySearchQuery where
  q := some q
  type := some "crypto_wallet"
  category := none
  page := none
  limit := none

-- a `|` in a text is not told from the one that joins the texts
example : buildCacheKey asciiPlatform { walletQuery "a" with type := some "email|t=" }
    = buildCacheKey asciiPlatform { walletQuery "a|t=email" with type := none } := by
  decide +kernel

/-- Two searches of one address and one by text, of which the second is answered from the
cache. -/
theorem cached_answers_wallets :
    let requests := [(0, walletQuery "bc1qAb"), (30000, walletQuery " bc1qAb "),
      (40000, { walletQuery "BC1" with type := none })]
    answers asciiPlatform requests walletStore =
      requests.map fun x => ((queryDatabase asciiPlatform x.2).run walletStore).1 :=
  cached_answers lowerCaseLaws_ascii _ (by decide +kernel) walletStore rfl

/-- A search of another address with the same lower case is answered with its answer: the
entry is not found. -/
theorem wallet_case_confused :
    ¬ ∀ (p : Platform) (requests : List (Int × RegistrySearchQuery)) (s : Store),
      LowerCaseLaws p.toLowerCase → s.cache = .empty →
      answers p requests s = requests.map fun x => ((queryDatabase p x.2).run s).1 := by
  intro h
  have hanswers := h asciiPlatform [(0, walletQuery "bc1qab"), (1000, walletQuery "bc1qAb")]
    walletStore lowerCaseLaws_ascii rfl
  exact absurd hanswers (by decide +kernel)

end Registry
