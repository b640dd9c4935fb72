import Harvest.Scrape.Rest
import Mathlib.Data.List.Forall2

/-!
# Pages of paginated interfaces

`Reads` says what data a request for a url leads to. A page comes about exactly if data can be read and
every row of it can be finished (`page_eq_ok_iff`, `finishedRows_eq_ok_iff`), and fetching it makes one
request, whatever comes of it (`page_history`).
-/

namespace Harvest

namespace RestScraper

variable {δ : Type} (r : RestScraper δ)

/-- The bytes that a request for a url is answered with after some history can be read as data. -/
def Reads (h : History) (url : Url) (data : δ) : Prop :=
  ∃ body, r.client.getBytes h url.toText = .ok body ∧ body ≠ [] ∧ r.parse body = .ok data

variable {r}

theorem Reads.unique {h : History} {url : Url} {data data' : δ} (h₁ : r.Reads h url data)
    (h₂ : r.Reads h url data') : data = data' := by
  obtain ⟨body, hbody, -, hdata⟩ := h₁
  obtain ⟨body', hbody', -, hdata'⟩ := h₂
  rw [hbody] at hbody'
  cases hbody'
  rw [hdata] at hdata'
  cases hdata'
  rfl

theorem fetch_history (url : Url) (s : RestState) :
    (r.fetch url s).2.history = s.history ++ [.get url.toText] := by
  unfold fetch Client.fetchBytes
  cases r.client.getBytes s.history url.toText with
  | error e => rfl
  | ok body =>
    change (if body.isEmpty then _ else _ : Except ScrapeError (List UInt8) × RestState).2.history = _
    split <;> rfl

theorem fetch_eq_ok_iff {url : Url} {s : RestState} {body : List UInt8} :
    (r.fetch url s).1 = .ok body ↔
      r.client.getBytes s.history url.toText = .ok body ∧ body ≠ [] := by
  unfold fetch Client.fetchBytes
  cases r.client.getBytes s.history url.toText with
  | error e => simp
  | ok found =>
    change (if found.isEmpty then _ else _ : Except ScrapeError (List UInt8) × RestState).1 = _ ↔ _
    cases found with
    | nil =>
      constructor
      · intro h
        cases h
      · rintro ⟨h, hne⟩
        cases h
        exact absurd rfl hne
    | cons b more =>
      constructor
      · intro h
        cases h
        exact ⟨rfl, List.cons_ne_nil b more⟩
      · rintro ⟨h, -⟩
        cases h
        rfl

theorem page_state (url : Url) (s : RestState) : (r.page url s).2 = (r.fetch url s).2 := by
  unfold page Action.andThen
  rcases r.fetch url s with ⟨e | body, s'⟩ <;> rfl

theorem page_history (url : Url) (s : RestState) :
    (r.page url s).2.history = s.history ++ [.get url.toText] := by
  rw [page_state, fetch_history]

theorem page_result (url : Url) (s : RestState) :
    (r.page url s).1 = (r.fetch url s).1.bind (r.readPage url) := by
  unfold page Action.andThen
  rcases r.fetch url s with ⟨e | body, s'⟩ <;> rfl

/-- A page comes about exactly if its data can be read and its rows can be finished. -/
theorem page_eq_ok_iff {url : Url} {s : RestState} {rows : Rows} {next : Except ScrapeError String} :
    (r.page url s).1 = .ok (rows, next) ↔
      ∃ data, r.Reads s.history url data ∧ r.finishedRows data = .ok rows ∧
        next = r.nextUrl url data := by
  rw [page_result]
  constructor
  · intro h
    cases hfetch : (r.fetch url s).1 with
    | error e => rw [hfetch] at h; cases h
    | ok body =>
      rw [hfetch] at h
      obtain ⟨hbody, hne⟩ := fetch_eq_ok_iff.1 hfetch
      change r.readPage url body = _ at h
      unfold readPage at h
      cases hparse : r.parse body with
      | error e => rw [hparse] at h; cases h
      | ok data =>
        rw [hparse] at h
        change (r.finishedRows data).map _ = _ at h
        cases hrows : r.finishedRows data with
        | error e => rw [hrows] at h; cases h
        | ok finished =>
          rw [hrows] at h
          cases h
          exact ⟨data, ⟨body, hbody, hne, hparse⟩, hrows, rfl⟩
  · rintro ⟨data, ⟨body, hbody, hne, hparse⟩, hrows, rfl⟩
    rw [fetch_eq_ok_iff.2 ⟨hbody, hne⟩]
    change r.readPage url body = _
    unfold readPage
    rw [hparse]
    change (r.finishedRows data).map _ = _
    rw [hrows]
    rfl

/-! ## Rows -/

theorem mapM_eq_ok_iff {ε α β : Type} {f : α → Except ε β} {xs : List α} {ys : List β} :
    xs.mapM f = .ok ys ↔ List.Forall₂ (fun x y => f x = .ok y) xs ys := by
  induction xs generalizing ys with
  | nil =>
    rw [List.forall₂_nil_left_iff, List.mapM_nil]
    constructor
    · intro h
      cases h
      rfl
    · rintro rfl
      rfl
  | cons x more ih =>
    rw [List.forall₂_cons_left_iff, List.mapM_cons]
    constructor
    · intro h
      cases hx : f x with
      | error e => rw [hx] at h; cases h
      | ok y =>
        cases hmore : more.mapM f with
        | error e => rw [hx, hmore] at h; cases h
        | ok rest =>
          rw [hx, hmore] at h
          cases h
          exact ⟨y, rest, rfl, ih.1 hmore, rfl⟩
    · rintro ⟨y, rest, hx, hmore, rfl⟩
      rw [hx, ih.2 hmore]
      rfl

theorem exists_of_forall₂ {α β : Type} {p : α → β → Prop} {xs : List α} {ys : List β}
    (h : List.Forall₂ p xs ys) {x : α} (hx : x ∈ xs) : ∃ y, p x y := by
  induction h with
  | nil => cases hx
  | cons hhead _ ih =>
    rcases List.mem_cons.1 hx with rfl | hx
    · exact ⟨_, hhead⟩
    · exact ih hx

/-- The finished rows are all rows in their order, each of them finished. -/
theorem finishedRows_eq_ok_iff {data : δ} {rows : Rows} :
    r.finishedRows data = .ok rows ↔
      ∃ raw, r.rows data = .ok raw ∧ List.Forall₂ (fun row done => r.row row = .ok done) raw rows := by
  unfold finishedRows
  cases r.rows data with
  | error e => simp
  | ok raw =>
    change raw.mapM r.row = .ok rows ↔ _
    rw [mapM_eq_ok_iff]
    simp

end RestScraper

end Harvest
