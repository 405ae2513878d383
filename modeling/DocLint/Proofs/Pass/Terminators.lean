import DocLint.Proofs.Pass.Entries
import DocLint.Proofs.Text.LineRange
import DocLint.Proofs.Token.Contour

/-!
# Terminators do not matter

Two texts with the same lines may differ in what ends each line, and so in every offset behind the first line. They
have the same paragraphs all the same, line by line, and rules that read no more than lines cannot tell them apart.
-/

namespace DocLint

set_option autoImplicit false

namespace PlainText

/-- The first and the last line. -/
def OpenParagraph.range (p : OpenParagraph) : Nat × Nat :=
  (p.firstLine, p.lastLine)

section Scans
variable {open' open'' : Option OpenParagraph} {line line' : PhysicalLine} {n : Nat}

theorem isBlank_iff_of_text (h : line.text = line'.text) : line.IsBlank ↔ line'.IsBlank := by
  rw [PhysicalLine.IsBlank, PhysicalLine.IsBlank, h]

theorem range_extended (h : open'.map OpenParagraph.range = open''.map OpenParagraph.range) (n : Nat) :
    (extended open' line n).range = (extended open'' line' n).range := by
  cases open' with
  | none =>
    rw [Option.map_none, eq_comm, Option.map_eq_none_iff] at h
    rw [h]
    rfl
  | some p =>
    rw [Option.map_some, eq_comm, Option.map_eq_some_iff] at h
    obtain ⟨q, rfl, hq⟩ := h
    have hfirst : q.firstLine = p.firstLine := congrArg Prod.fst hq
    exact congrArg (·, n) hfirst.symm

/-- Two scans over lines with the same texts collect the same ranges, from any line on. -/
theorem ranges_eq_of_texts {lines lines' : List PhysicalLine}
    (hopen : open'.map OpenParagraph.range = open''.map OpenParagraph.range)
    (hlines : lines.map PhysicalLine.text = lines'.map PhysicalLine.text) :
    (paragraphsFrom open' n lines).map OpenParagraph.range =
      (paragraphsFrom open'' n lines').map OpenParagraph.range := by
  have htoList (o : Option OpenParagraph) :
      o.toList.map OpenParagraph.range = (o.map OpenParagraph.range).toList := by
    cases o <;> rfl
  induction lines generalizing lines' open' open'' n with
  | nil =>
    rw [List.map_nil, eq_comm, List.map_eq_nil_iff] at hlines
    rw [hlines, paragraphsFrom, paragraphsFrom, htoList, htoList, hopen]
  | cons line rest ih =>
    cases lines' with
    | nil => cases hlines
    | cons line' rest' =>
      obtain ⟨htext, hrest⟩ := List.cons.inj hlines
      by_cases hblank : line.IsBlank
      · have hblank' := (isBlank_iff_of_text htext).mp hblank
        rw [paragraphsFrom_blank hblank, paragraphsFrom_blank hblank', List.map_append, List.map_append, htoList,
          htoList, hopen, ih rfl hrest]
      · have hblank' := mt (isBlank_iff_of_text htext).mpr hblank
        rw [paragraphsFrom_solid hblank, paragraphsFrom_solid hblank']
        apply ih _ hrest
        rw [Option.map_some, Option.map_some, range_extended hopen]

end Scans

section Tokens
variable {source source' : String}

/-- The contour of a paragraph, given its first and last place among the lines. -/
def paragraphContour (texts : List String) (r : Nat × Nat) : Contour :=
  let lines := (texts.drop r.1).take (r.2 + 1 - r.1)
  ⟨.paragraph, r.1 + 1, r.2 + 1, lines, [⟨.text, r.1 + 1, r.2 + 1, lines, []⟩]⟩

theorem contour_of_isParagraph {i j : Nat} {t : Token} (hrun : IsRun (physicalLines source) i j)
    (ht : IsParagraph source i j t) : t.contour = paragraphContour (splitLines source) (i, j) := by
  obtain ⟨first, last, hfirst, hlast, hspan⟩ := ht.span
  obtain ⟨c, -, hc, -⟩ := ht.ends hrun
  have hne : t.content ≠ "" := by
    intro hempty
    rw [hempty] at hc
    cases hc
  have hslice : Text.slice? source first.start last.stop = some t.content := by
    have hcontent := ht.content
    rwa [hspan] at hcontent
  have hlines := splitLines_of_slice hfirst hlast hrun.le hslice hne
  rw [Token.contour, ht.type, ht.children, contours_cons, contours, Token.contour, contours, ht.line, ht.endLine,
    hlines]
  rfl

theorem exists_runs_contours (source : String) :
    ∃ runs : List (Nat × Nat), contours (tokens source) = runs.map (paragraphContour (splitLines source)) ∧
      (paragraphsFrom none 1 (physicalLines source)).map OpenParagraph.range =
        runs.map fun r => (r.1 + 1, r.2 + 1) := by
  obtain ⟨runs, hruns, heq⟩ := exists_runs_tokens source
  refine ⟨runs, ?_, ?_⟩
  · rw [contours_eq_map, heq, List.map_map]
    apply List.map_congr_left
    intro r hr
    have hrun : IsRun (physicalLines source) r.1 r.2 := ((hruns.mem_iff r.1 r.2).mp hr).1
    exact contour_of_isParagraph hrun (isParagraph_token hrun)
  · have hranges : (tokens source).map (fun t => (t.line, t.endLine)) =
        (paragraphsFrom none 1 (physicalLines source)).map OpenParagraph.range := by
      rw [tokens, List.map_map]
      rfl
    rw [← hranges, heq, List.map_map]
    rfl

theorem contours_tokens_eq (h : splitLines source = splitLines source') :
    contours (tokens source) = contours (tokens source') := by
  obtain ⟨runs, hcontours, hranges⟩ := exists_runs_contours source
  obtain ⟨runs', hcontours', hranges'⟩ := exists_runs_contours source'
  have hsame : runs.map (fun r => (r.1 + 1, r.2 + 1)) = runs'.map fun r => (r.1 + 1, r.2 + 1) := by
    rw [← hranges, ← hranges']
    exact ranges_eq_of_texts rfl h
  have hinjective : Function.Injective fun r : Nat × Nat => (r.1 + 1, r.2 + 1) := by
    rintro ⟨i, j⟩ ⟨i', j'⟩ heq
    simp only [Prod.mk.injEq] at heq
    rw [Prod.mk.injEq]
    omega
  rw [hcontours, hcontours', List.map_injective_iff.mpr hinjective hsame, h]

end Tokens

end PlainText

/-- A rule that reads no more of a document than its layout. -/
def Rule.ReadsLayout (r : Rule) : Prop :=
  ∀ d d' options, SameLayout d d' → r.trace ⟨d, options⟩ = r.trace ⟨d', options⟩

namespace Pass

section Shares
variable {config : Config} {rules : RuleSet} {documents documents' : List Document} {n : Nat}
  {invs : List Invocation} {R : Share → Share → Prop}

theorem sameOutcome_shares
    (h : ∀ inv ∈ invs, SameOutcome R (inv.share documents n) (inv.share documents' n)) :
    SameOutcome (List.Forall₂ R) (shares documents n invs) (shares documents' n invs) := by
  induction invs with
  | nil => exact .ok .nil
  | cons inv rest ih =>
    obtain ⟨hfirst, hrest⟩ := List.forall_mem_cons.mp h
    rw [shares, shares, List.mapM_cons, List.mapM_cons]
    apply hfirst.bind
    intro s s' hs
    apply (ih hrest).bind
    intro found found' hfound
    exact .ok (.cons hs hfound)

/-- Two shares of one rule that are equal if the rule reads no more than the layout of a plain text. -/
def Alike (rules : RuleSet) (s s' : Share) : Prop :=
  s.rule = s'.rule ∧
    ∀ r ∈ rules.rules, r.name = s.rule → r.descriptor.parser = .text → r.ReadsLayout → s = s'

theorem filter_eq_of_alike {found found' : List Share} {r : Rule} (h : List.Forall₂ (Alike rules) found found')
    (hr : r ∈ rules.rules) (hparser : r.descriptor.parser = .text) (hreads : r.ReadsLayout) :
    (found.filter fun s => s.rule = r.name) = found'.filter fun s => s.rule = r.name := by
  induction h with
  | nil => rfl
  | @cons s s' rest rest' hs _ ih =>
    obtain ⟨hrule, hsame⟩ := hs
    by_cases hname : s.rule = r.name
    · rw [← hsame r hr hname.symm hparser hreads, List.filter_cons, List.filter_cons, ih]
    · have hname' : s'.rule ≠ r.name := hrule ▸ hname
      rw [List.filter_cons_of_neg (by simpa using hname), List.filter_cons_of_neg (by simpa using hname'), ih]

/-- Rules that see documents with the same layout have shares that are alike. -/
theorem sameOutcome_share {inv : Invocation} {d d' : Document} (hinv : inv ∈ invocations config rules.rules)
    (hd : documents.find? (fun d => d.parser = inv.parser) = some d)
    (hd' : documents'.find? (fun d => d.parser = inv.parser) = some d')
    (hlayout : inv.parser = .text → SameLayout d d') :
    SameOutcome (Alike rules) (inv.share documents n) (inv.share documents' n) := by
  unfold Invocation.share
  rw [hd, hd']
  cases inv.rule.validate inv.settings.options with
  | panicked m => exact .error _
  | rejected e => exact .ok ⟨rfl, fun _ _ _ _ _ => rfl⟩
  | accepted =>
    refine .ok ⟨rfl, ?_⟩
    intro r hr hname hparser hreads
    have heq : r = inv.rule := eq_of_name_eq hr (mem_invocations.mp hinv).1 hname
    subst heq
    rw [hreads d d' inv.settings.options (hlayout hparser)]

end Shares

section Runs
variable {config : Config} {rules : RuleSet} {source source' : String} {documents : List Document}

/-- The document that a rule sees, if its parser is one of the library. -/
theorem exists_document (name : String) (hnul : '\x00' ∉ source.toList) {invs : List Invocation}
    (hread : readAll name source (neededParsers Parser.builtin invs) = .ok documents) {inv : Invocation}
    (hinv : inv ∈ invs) :
    ∃ d, documents.find? (fun d => d.parser = inv.parser) = some d ∧
      (inv.parser = .text → d = .ofSource name source ⟨.text, PlainText.tokens source⟩) := by
  rw [find?_document (fun _ => Parser.faithful_of_mem_builtin) hread hinv, documentFor, findParser_builtin]
  cases inv.parser with
  | markdown =>
    rw [Option.bind_some, Parser.ofKind, parse_markdown hnul]
    refine ⟨_, rfl, ?_⟩
    intro h
    cases h
  | text =>
    rw [Option.bind_some, Parser.ofKind, parse_plainText hnul]
    exact ⟨_, rfl, fun _ => rfl⟩

theorem sameLayout_of_sameLines (name : String) (h : splitLines source = splitLines source') :
    SameLayout (.ofSource name source ⟨.text, PlainText.tokens source⟩)
      (.ofSource name source' ⟨.text, PlainText.tokens source'⟩) :=
  sameLayout_of_contours rfl rfl h (PlainText.contours_tokens_eq h)

/-- Where two texts without NUL have the same lines, they have paragraphs with the same contours, and the records of
their lines differ in the bytes of the blocks alone. A pass over one of them breaks off if it does so over the other,
and otherwise finds the same of every rule for plain text that reads no more than that. -/
theorem result_of_sameLines (schedule schedule' : Ledger → List Nat) (config : Config) (rules : RuleSet)
    (name : String) (hnul : '\x00' ∉ source.toList) (hnul' : '\x00' ∉ source'.toList)
    (hlines : splitLines source = splitLines source') :
    (∃ tokens tokens', Parser.plainText.parse source = .ok ⟨.text, tokens⟩ ∧
      Parser.plainText.parse source' = .ok ⟨.text, tokens'⟩ ∧
      SameLayout (.ofSource name source ⟨.text, tokens⟩) (.ofSource name source' ⟨.text, tokens'⟩)) ∧
    ((∃ m, runWith schedule config rules Parser.builtin name source = .error (.panicked m) ∧
        runWith schedule' config rules Parser.builtin name source' = .error (.panicked m)) ∨
      ∃ record record', runWith schedule config rules Parser.builtin name source = .ok record ∧
        runWith schedule' config rules Parser.builtin name source' = .ok record' ∧
        ∀ r ∈ rules.rules, r.descriptor.parser = .text → r.ReadsLayout →
          record.result.violationsOf r = record'.result.violationsOf r ∧
          record.result.failuresOf r = record'.result.failuresOf r) := by
  refine ⟨⟨_, _, parse_plainText hnul, parse_plainText hnul', sameLayout_of_sameLines name hlines⟩, ?_⟩
  obtain ⟨documents, hread⟩ := exists_readAll_builtin name hnul (invocations config rules.rules)
  obtain ⟨documents', hread'⟩ := exists_readAll_builtin name hnul' (invocations config rules.rules)
  have hcount : (physicalLines source).length = (physicalLines source').length := by
    have hlength := congrArg List.length hlines
    rwa [splitLines, splitLines, List.length_map, List.length_map] at hlength
  have hshares : SameOutcome (List.Forall₂ (Alike rules))
      (shares documents (physicalLines source).length (invocations config rules.rules))
      (shares documents' (physicalLines source).length (invocations config rules.rules)) := by
    apply sameOutcome_shares
    intro inv hinv
    obtain ⟨d, hd, htext⟩ := exists_document name hnul hread hinv
    obtain ⟨d', hd', htext'⟩ := exists_document name hnul' hread' hinv
    apply sameOutcome_share hinv hd hd'
    intro hparser
    rw [htext hparser, htext' hparser]
    exact sameLayout_of_sameLines name hlines
  generalize hfound : shares documents (physicalLines source).length _ = outcome at hshares
  generalize hfound' : shares documents' (physicalLines source).length _ = outcome' at hshares
  rw [hcount] at hfound'
  cases hshares with
  | error stop =>
    obtain ⟨m, rfl, -⟩ := shares_eq_error hfound
    refine .inl ⟨m, ?_, ?_⟩
    · exact (runWith_eq_error_iff schedule).mpr (alone_of_stopped hread hfound)
    · exact (runWith_eq_error_iff schedule').mpr (alone_of_stopped hread' hfound')
  | @ok found found' halike =>
    obtain ⟨record, hrun, hresult⟩ := runWith_of_alone schedule
      ((alone_eq_ok_iff ..).mpr ⟨documents, found, hread, hfound, rfl⟩)
    obtain ⟨record', hrun', hresult'⟩ := runWith_of_alone schedule'
      ((alone_eq_ok_iff ..).mpr ⟨documents', found', hread', hfound', rfl⟩)
    refine .inr ⟨record, record', hrun, hrun', ?_⟩
    intro r hr hparser hreads
    have hentries := filter_eq_of_alike halike hr hparser hreads
    rw [hresult, hresult', violationsOf_assemble config name r (ruleName_of_shares hfound),
      violationsOf_assemble config name r (ruleName_of_shares hfound'), failuresOf_assemble, failuresOf_assemble,
      hentries]
    exact ⟨rfl, rfl⟩

end Runs

section Covered

/-- The lines that a block covers, and the line behind the last one, which there is not. -/
def coveredReports (d : Document) : List Report :=
  (d.index.records.filterMap fun r => if r.token.isSome then some ⟨r.number, none, some r.text⟩ else none) ++
    [⟨d.lineCount + 1, none, none⟩]

def coveredRule : Rule where
  descriptor := ⟨["covered"], "Reports lines that a block covers", ["lines"], none, .text, false⟩
  validate _ := .accepted
  function := .sync fun input => .ofReports (coveredReports input.document)
  valid := by decide +kernel
  fits := rfl

def coveredRules : RuleSet :=
  ⟨[coveredRule], by decide +kernel⟩

theorem readsLayout_coveredRule : coveredRule.ReadsLayout := by
  intro d d' options h
  have hreports : coveredReports d = coveredReports d' := by
    have hcount : d.lineCount = d'.lineCount := congrArg List.length h.lines
    rw [coveredReports, coveredReports, hcount]
    apply congrArg (· ++ _)
    have hrecords := h.records
    generalize d.index.records = records, d'.index.records = records' at hrecords ⊢
    induction hrecords with
    | nil => rfl
    | @cons r r' _ _ hr _ ih =>
      have hsome : r.token.isSome = r'.token.isSome := by
        rcases hr.token with ⟨hnone, hnone'⟩ | ⟨_, t, t', -, -, ht, ht'⟩
        · rw [hnone, hnone']
        · rw [ht, ht']
          rfl
      rw [List.filterMap_cons, List.filterMap_cons, hsome, hr.number, hr.text, ih]
  exact congrArg Trace.ofReports hreports

theorem not_breaks_coveredRules (config : Config) (m : Option String) :
    ¬ Breaks (invocations config coveredRules.rules) m := by
  rintro ⟨⟨r, settings⟩, hinv, hbreaks⟩
  cases List.mem_singleton.mp (mem_invocations.mp hinv).1
  cases hbreaks

/-- A terminator of two characters beside an empty line, and three of one character in its place. -/
theorem result_of_coveredRule :
    '\x00' ∉ "a\r\n\r\nb\nc".toList ∧ '\x00' ∉ "a\n\rb\rc".toList ∧
      splitLines "a\r\n\r\nb\nc" = splitLines "a\n\rb\rc" ∧ coveredRule ∈ coveredRules.rules ∧
      coveredRule.descriptor.parser = .text ∧ coveredRule.ReadsLayout ∧
      ∃ record record', run .standard coveredRules Parser.builtin "a.txt" "a\r\n\r\nb\nc" = .ok record ∧
        run .standard coveredRules Parser.builtin "a.txt" "a\n\rb\rc" = .ok record' ∧
        record.result.violationsOf coveredRule = record'.result.violationsOf coveredRule ∧
        record.result.failuresOf coveredRule = record'.result.failuresOf coveredRule := by
  have hnul : '\x00' ∉ "a\r\n\r\nb\nc".toList := by decide
  have hnul' : '\x00' ∉ "a\n\rb\rc".toList := by decide
  have hlines : splitLines "a\r\n\r\nb\nc" = splitLines "a\n\rb\rc" := rfl
  refine ⟨hnul, hnul', hlines, List.mem_cons_self, rfl, readsLayout_coveredRule, ?_⟩
  obtain ⟨-, ⟨m, hstop, -⟩ | ⟨record, record', hrun, hrun', hsame⟩⟩ :=
    result_of_sameLines Ledger.roundRobin Ledger.roundRobin .standard coveredRules "a.txt" hnul hnul' hlines
  · rcases runWith_or_breaks Ledger.roundRobin .standard coveredRules "a.txt" hnul with
      ⟨record, hrun⟩ | ⟨m', -, hbreaks⟩
    · rw [hstop] at hrun
      cases hrun
    · exact absurd hbreaks (not_breaks_coveredRules _ m')
  · obtain ⟨hviolations, hfailures⟩ := hsame coveredRule List.mem_cons_self rfl readsLayout_coveredRule
    exact ⟨record, record', hrun, hrun', hviolations, hfailures⟩

end Covered

end Pass

end DocLint
