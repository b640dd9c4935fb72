import Harvest.Client.Static
import Harvest.Proofs.Extract.Selection
import Harvest.Proofs.Job.Traversal
import Harvest.Scrape.Page

/-!
# Three ways to the rows of a page

A schema is read off a page by a job that runs through it, by a scraper of single pages, and by hand from the
document. All three give a row for every element that the schema describes, and they give the same rows in
the same order, whatever the bytes of the page (`rows_agree`).
-/

namespace Harvest

namespace Extract

/-- Reading with a registry that others have looked types up in gives the same. -/
theorem forEach_eq_map {α : Type} {read : Selection → Registered α}
    (htypes : ∀ sel r, (read sel r).2.types = r.types)
    (hcongr : ∀ sel (r r' : Registry), r.types = r'.types → (read sel r).1 = (read sel r').1)
    (sels : List Selection) {r r' : Registry} (h : r.types = r'.types) :
    (forEach read sels r).1 = sels.map fun sel => (read sel r').1 := by
  induction sels generalizing r with
  | nil => rfl
  | cons sel more ih =>
    rw [List.map_cons, ← hcongr sel r r' h, ← ih ((htypes sel r).trans h)]
    rfl

theorem records_eq_recordsOf (s : Schema) (d : Markup.Document) {r r' : Registry}
    (h : r.types = r'.types) : (records s d r).1 = recordsOf s r' d :=
  forEach_eq_map (fun sel r => mergeAll_types true s.properties sel [] r)
    (fun sel _ _ h => mergeAll_congr_types true s.properties sel [] h) _ h

theorem recordsOf_congr (s : Schema) (d : Markup.Document) {r r' : Registry}
    (h : r.types = r'.types) : recordsOf s r d = recordsOf s r' d :=
  (records_eq_recordsOf s d rfl).symm.trans (records_eq_recordsOf s d h)

end Extract

namespace Job

theorem visits_of_page {j : Job} {schema : Schema} (hpage : schema.isUrlList = false) (page : WebPage)
    (s : JobState) :
    j.visits schema page s = [⟨page.url, Extract.recordsOf schema s.registry page.document⟩] := by
  have hlist : ¬schema.isUrlList = true := Bool.eq_false_iff.1 hpage
  rw [visits, Schema.pageRecords, Schema.pageVisits, if_neg hlist, if_neg hlist]

/-- A job over a single page gives the records of the page. -/
theorem scrape_of_page {j : Job} {s : JobState} {schema : Schema} {url : Url} {body : String}
    (hrule : j.stopOn = none) (hschema : j.schema = some schema) (hpage : schema.isUrlList = false)
    (hurl : Url.parse j.url = .ok url)
    (hbody : j.client.getText (j.checkAddress s).history url.toText = .ok body) :
    (j.scrape s).1 = .ok (Extract.recordsOf schema s.registry (.parse body)) := by
  have hopen := opened_eq_ok_iff.2 ⟨url, body, hschema, hurl, hbody, rfl, rfl⟩
  obtain ⟨hresult, -, -⟩ := scrape_of_no_rule hrule hopen
  rw [visits_of_page hpage] at hresult
  rw [hresult, List.flatMap_cons, List.flatMap_nil, List.append_nil]
  exact congrArg (fun r => Except.ok (Extract.recordsOf schema r (.parse body))) (checkAddress_eq s).1

end Job

namespace PageScraper

/-- The rows behind a url are those of the bytes that it is answered with. -/
theorem rowsAt_of_ok {p : PageScraper} {url : String} {s : PageState} {bytes : List UInt8}
    (hrequest : p.request url = .get url) (hbytes : p.client.getBytes s.history url = .ok bytes) :
    (p.toScraper.rowsAt url s).1 =
      .ok ((Extract.records p.schema (.parse (Text.Utf8.toStringLossy bytes)) s.registry).1.map
        Record.toJson) := by
  have hscrape : p.toScraper.scrapeUrl url s =
      (.ok bytes, { s with history := s.history ++ [.get url] }) := by
    change p.scrapeUrl url s = _
    rw [scrapeUrl, hrequest, send, Client.fetchBytes, hbytes]
    rfl
  rw [Scraper.rowsAt, Action.andThen, hscrape]
  rfl

end PageScraper

/-- **The same page gives the same rows, whoever reads it.** A job that nothing stops, a scraper of single
pages and the reading of the document itself give one row for each element that the schema describes, in
one order. The client may decode a page for one and not for the other, and may be asked for the url in
different spellings. The registries need only hold the same types, whether or not they are sealed. -/
theorem rows_agree (j : Job) (js : JobState) (ps : PageState) (r : Registry) (schema : Schema) (url : Url)
    (bytes : List UInt8) (hrule : j.stopOn = none) (hschema : j.schema = some schema)
    (hpage : schema.isUrlList = false) (hurl : Url.parse j.url = .ok url)
    (hlossy : ∀ h text, j.client.getText h text =
      (j.client.getBytes h text).map Text.Utf8.toStringLossy)
    (hspelling : ∀ text url, Url.parse text = .ok url →
      j.client.getBytes ps.history text =
        j.client.getBytes (j.checkAddress js).history url.toText)
    (hbytes : j.client.getBytes (j.checkAddress js).history url.toText = .ok bytes)
    (hjs : js.registry.types = r.types) (hps : ps.registry.types = r.types) :
    let document := Markup.Document.parse (Text.Utf8.toStringLossy bytes)
    let nodes := (Selection.ofDocument document schema.selector).nodes
    let rows := (Extract.records schema document r).1.map Record.toJson
    (j.scrape js).1.map (List.map Record.toJson) = .ok rows ∧
      ((PageScraper.plain j.client schema).toScraper.rowsAt j.url ps).1 = .ok rows ∧
      rows = nodes.map (fun n =>
        Record.toJson (Extract.record schema.properties ⟨document, [n]⟩ r).1) ∧
      nodes.Nodup ∧ ∀ n, n ∈ nodes ↔ Selection.Describes schema.selector document n := by
  intro document nodes rows
  have hrows : rows = (Extract.recordsOf schema r document).map Record.toJson := by
    rw [← Extract.records_eq_recordsOf schema document rfl]
  refine ⟨?_, ?_, ?_, Selection.nodup_ofDocument document schema.selector,
    fun n => Selection.mem_ofDocument⟩
  · have hbody : j.client.getText (j.checkAddress js).history url.toText =
        .ok (Text.Utf8.toStringLossy bytes) := by
      rw [hlossy, hbytes]
      rfl
    rw [Job.scrape_of_page hrule hschema hpage hurl hbody, hrows,
      ← Extract.recordsOf_congr schema document hjs]
    rfl
  · have hpagebytes : j.client.getBytes ps.history j.url = .ok bytes :=
      (hspelling j.url url hurl).trans hbytes
    rw [PageScraper.rowsAt_of_ok rfl hpagebytes, hrows, ← Extract.records_eq_recordsOf schema document hps]
    rfl
  · rw [hrows, Extract.recordsOf, Selection.each, List.map_map, List.map_map, Selection.ofDocument_document]
    rfl

/-! ## A page that is no text -/

/-- Two lines, of which the first has a byte that stands for no character. -/
def rawPage : List UInt8 :=
  [0x3C, 0x70, 0x3E, 0x61, 0xFF, 0x62, 0x3C, 0x70, 0x3E, 0x63]

/-- Reads the text of each line. -/
def rawSchema : Schema :=
  { Schema.empty with
    css := ["p"]
    kind := .object
    properties := [{ Schema.empty with id := "line" }] }

/-- A job for the page, which is served everywhere. -/
def rawJob : Job :=
  .plain "raw" "http://A.test" (some rawSchema) (.serving fun _ => some rawPage)

theorem rows_agree_raw :
    let url : Url := .ofPage ""
    let document := Markup.Document.parse (Text.Utf8.toStringLossy rawPage)
    let rows := (Extract.records rawSchema document .empty).1.map Record.toJson
    (rawSchema.isUrlList = false ∧ Url.parse rawJob.url = .ok url ∧
      (∀ h text, rawJob.client.getText h text =
        (rawJob.client.getBytes h text).map Text.Utf8.toStringLossy) ∧
      (∀ h h' text url, Url.parse text = .ok url →
        rawJob.client.getBytes h text = rawJob.client.getBytes h' url.toText) ∧
      rawJob.client.getBytes [] url.toText = .ok rawPage) ∧
    (rawJob.scrape (.start .empty)).1.map (List.map Record.toJson) = .ok rows ∧
    ((PageScraper.plain rawJob.client rawSchema).toScraper.rowsAt rawJob.url ⟨[], .empty⟩).1 =
      .ok rows ∧
    rows.length = (Selection.ofDocument document "p").size := by
  intro url document rows
  have hurl : Url.parse rawJob.url = .ok url := by decide +kernel
  obtain ⟨hjob, hpage, hnodes, -⟩ := rows_agree rawJob (.start .empty) ⟨[], .empty⟩ .empty rawSchema url
    rawPage rfl rfl rfl hurl (fun _ _ => rfl) (fun _ _ _ => rfl) rfl rfl rfl
  refine ⟨⟨rfl, hurl, fun _ _ => rfl, fun _ _ _ _ _ => rfl, rfl⟩, hjob, hpage, ?_⟩
  exact (congrArg List.length hnodes).trans (List.length_map _)

end Harvest
