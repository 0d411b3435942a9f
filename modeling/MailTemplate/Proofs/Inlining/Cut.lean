import Mathlib.Data.List.DropRight
import MailTemplate.Inlining.Inject
import MailTemplate.Proofs.Inlining.Blocks

/-! # A document cut at its style blocks

A document is cut into style blocks and what stands before, between and behind them. The collector
reads it token by token and knows no more than whether it is in a block; what it keeps and what it
gathers are those of the one way in which the document can be cut (`collectStyleBlocks_cut`). -/

namespace MailTemplate.Inlining

open Markup

/-- The end of a block in front of `behind`: its closing tag with all attribute tokens there are, or
the end of the document. -/
inductive Ends : List Token → List Token → Prop where
  | closed {closing : Token} {attributes behind : List Token}
      (closes : isOf .tagClose "style" closing = true)
      (all : ∀ token ∈ attributes, token.isAttribute = true)
      (longest : ∀ token ∈ behind.head?, token.isAttribute = false) :
      Ends (closing :: attributes) behind
  | unclosed : Ends [] []

/-- A block in front of `behind`: it goes from an opening tag to the first closing one. -/
inductive IsBlock : List Token → List Token → Prop where
  | mk {opening : Token} {inside ending behind : List Token}
      (opens : isOf .tagOpen "style" opening = true)
      (first : ∀ token ∈ inside, isOf .tagClose "style" token = false)
      (ends : Ends ending behind) : IsBlock (opening :: inside ++ ending) behind

/-- A block with what is kept between it and the next one. -/
structure Piece where
  block : List Token
  kept : List Token

def Piece.tokens (piece : Piece) : List Token :=
  piece.block ++ piece.kept

/-- Each piece begins with a block, and there is no other one in it. -/
inductive Blocks : List Piece → Prop where
  | nil : Blocks []
  | cons {piece : Piece} {pieces : List Piece}
      (isBlock : IsBlock piece.block (piece.kept ++ pieces.flatMap Piece.tokens))
      (noBlock : ∀ token ∈ piece.kept, isOf .tagOpen "style" token = false)
      (behind : Blocks pieces) : Blocks (piece :: pieces)

/-- The texts of the content among some tokens. -/
def contentOf (tokens : List Token) : String :=
  String.join ((tokens.filter (·.kind == .content)).map Token.text)

structure Cut where
  /-- What stands before the first block. -/
  before : List Token
  pieces : List Piece

namespace Cut

def kept (cut : Cut) : List Token :=
  cut.before ++ cut.pieces.flatMap Piece.kept

def css (cut : Cut) : String :=
  contentOf (cut.pieces.flatMap Piece.block)

/-- Whether there is no closing tag in the last block. -/
def unterminated (cut : Cut) : Bool :=
  cut.pieces.getLast?.any fun piece => !piece.block.any (isOf .tagClose "style")

/-- A cut of these tokens at their blocks. -/
structure Of (cut : Cut) (tokens : List Token) : Prop where
  tokens_eq : cut.before ++ cut.pieces.flatMap Piece.tokens = tokens
  before : ∀ token ∈ cut.before, isOf .tagOpen "style" token = false
  pieces : Blocks cut.pieces

end Cut

/-! ## There is only one cut -/

/-- A run of tokens ends where the first other token is. -/
theorem append_inj_of_run {p : Token → Bool} {a b c d : List Token} (h : a ++ b = c ++ d)
    (ha : ∀ token ∈ a, p token = true) (hb : ∀ token ∈ b.head?, p token = false)
    (hc : ∀ token ∈ c, p token = true) (hd : ∀ token ∈ d.head?, p token = false) :
    a = c ∧ b = d := by
  have hrun {run rest : List Token} (hrun : ∀ token ∈ run, p token = true)
      (hrest : ∀ token ∈ rest.head?, p token = false) : (run ++ rest).takeWhile p = run := by
    rw [List.takeWhile_append_of_pos hrun]
    cases rest with
    | nil => simp
    | cons token rest => simp [hrest token rfl]
  have hac : a = c := by rw [← hrun ha hb, h, hrun hc hd]
  exact ⟨hac, List.append_cancel_left (hac ▸ h)⟩

theorem Ends.head_closes {ending behind : List Token} (h : Ends ending behind) :
    ∀ token ∈ (ending ++ behind).head?, isOf .tagClose "style" token = true := by
  cases h with
  | closed hcloses =>
    intro token hmem
    obtain rfl := Option.mem_some.mp hmem
    exact hcloses
  | unclosed => exact nofun

theorem Ends.unique {ending behind other rest : List Token} (h : Ends ending behind)
    (hother : Ends other rest) (heq : ending ++ behind = other ++ rest) :
    ending = other ∧ behind = rest := by
  cases h with
  | closed hcloses hattributes hlongest =>
    cases hother with
    | closed hcloses' hattributes' hlongest' =>
      obtain ⟨rfl, htail⟩ := List.cons.inj heq
      obtain ⟨rfl, rfl⟩ := append_inj_of_run htail hattributes hlongest hattributes' hlongest'
      exact ⟨rfl, rfl⟩
    | unclosed => cases heq
  | unclosed =>
    cases hother with
    | closed hcloses' => cases heq
    | unclosed => exact ⟨rfl, rfl⟩

theorem IsBlock.unique {block behind other rest : List Token} (h : IsBlock block behind)
    (hother : IsBlock other rest) (heq : block ++ behind = other ++ rest) :
    block = other ∧ behind = rest := by
  obtain ⟨hopens, hfirst, hends⟩ := h
  obtain ⟨hopens', hfirst', hends'⟩ := hother
  simp only [List.cons_append, List.append_assoc] at heq
  obtain ⟨rfl, htail⟩ := List.cons.inj heq
  have hinside := append_inj_of_run (p := fun token => !isOf .tagClose "style" token) htail
    (by simpa using hfirst) (by simpa using hends.head_closes)
    (by simpa using hfirst') (by simpa using hends'.head_closes)
  obtain ⟨rfl, hending⟩ := hinside
  obtain ⟨rfl, rfl⟩ := hends.unique hends' hending
  exact ⟨rfl, rfl⟩

theorem IsBlock.head_opens {block behind : List Token} (h : IsBlock block behind) :
    ∃ opening tail, block = opening :: tail ∧ isOf .tagOpen "style" opening = true := by
  obtain ⟨hopens, -, -⟩ := h
  exact ⟨_, _, rfl, hopens⟩

theorem Blocks.head_opens {pieces : List Piece} (h : Blocks pieces) :
    ∀ token ∈ (pieces.flatMap Piece.tokens).head?, isOf .tagOpen "style" token = true := by
  cases h with
  | nil => exact nofun
  | cons hblock hkept hpieces =>
    obtain ⟨opening, tail, heq, hopens⟩ := hblock.head_opens
    intro token hmem
    rw [List.flatMap_cons, Piece.tokens, heq] at hmem
    obtain rfl := Option.mem_some.mp hmem
    exact hopens

/-- What is kept ends where the first block begins. -/
theorem kept_unique {kept other : List Token} {pieces rest : List Piece}
    (hkept : ∀ token ∈ kept, isOf .tagOpen "style" token = false) (hpieces : Blocks pieces)
    (hother : ∀ token ∈ other, isOf .tagOpen "style" token = false) (hrest : Blocks rest)
    (h : kept ++ pieces.flatMap Piece.tokens = other ++ rest.flatMap Piece.tokens) :
    kept = other ∧ pieces.flatMap Piece.tokens = rest.flatMap Piece.tokens :=
  append_inj_of_run (p := fun token => !isOf .tagOpen "style" token) h
    (by simpa using hkept) (by simpa using hpieces.head_opens)
    (by simpa using hother) (by simpa using hrest.head_opens)

theorem Blocks.unique {pieces rest : List Piece} (h : Blocks pieces) (hrest : Blocks rest)
    (heq : pieces.flatMap Piece.tokens = rest.flatMap Piece.tokens) : pieces = rest := by
  induction h generalizing rest with
  | nil =>
    cases hrest with
    | nil => rfl
    | cons hblock _ _ =>
      obtain ⟨opening, tail, hcons, -⟩ := hblock.head_opens
      simp [Piece.tokens, hcons] at heq
  | @cons piece pieces hblock hkept hpieces ih =>
    cases hrest with
    | nil =>
      obtain ⟨opening, tail, hcons, -⟩ := hblock.head_opens
      simp [Piece.tokens, hcons] at heq
    | @cons other rest hblock' hkept' hrest =>
      simp only [List.flatMap_cons, Piece.tokens, List.append_assoc] at heq
      obtain ⟨hblocks, hbehind⟩ := hblock.unique hblock' heq
      obtain ⟨hkepts, htokens⟩ := kept_unique hkept hpieces hkept' hrest hbehind
      obtain ⟨block, kept⟩ := piece
      obtain ⟨block', kept'⟩ := other
      obtain rfl : block = block' := hblocks
      obtain rfl : kept = kept' := hkepts
      rw [ih hrest htokens]

theorem Cut.Of.unique {cut other : Cut} {tokens : List Token} (h : cut.Of tokens)
    (hother : other.Of tokens) : cut = other := by
  obtain ⟨hbefore, hpieces⟩ := kept_unique h.before h.pieces hother.before hother.pieces
    (h.tokens_eq.trans hother.tokens_eq.symm)
  obtain ⟨before, pieces⟩ := cut
  obtain ⟨before', pieces'⟩ := other
  obtain rfl : before = before' := hbefore
  obtain rfl : pieces = pieces' := h.pieces.unique hother.pieces hpieces
  rfl

/-! ## There is a cut -/

/-- A list up to the first token of a kind, and the rest from that token on. -/
theorem exists_run (p : Token → Bool) (tokens : List Token) :
    ∃ run rest, tokens = run ++ rest ∧ (∀ token ∈ run, p token = true) ∧
      ∀ token ∈ rest.head?, p token = false := by
  refine ⟨tokens.takeWhile p, tokens.dropWhile p, List.takeWhile_append_dropWhile.symm,
    fun _ hmem => List.mem_takeWhile_imp hmem, ?_⟩
  intro token hmem
  have hhead := List.head?_dropWhile_not p tokens
  rw [Option.mem_def.mp hmem] at hhead
  exact hhead

theorem exists_block {opening : Token} (hopens : isOf .tagOpen "style" opening = true)
    (tokens : List Token) :
    ∃ block behind, opening :: tokens = block ++ behind ∧ IsBlock block behind := by
  obtain ⟨inside, rest, rfl, hinside, hrest⟩ :=
    exists_run (fun token => !isOf .tagClose "style" token) tokens
  have hfirst : ∀ token ∈ inside, isOf .tagClose "style" token = false := by simpa using hinside
  cases rest with
  | nil => exact ⟨_, [], by simp, .mk hopens hfirst .unclosed⟩
  | cons closing rest =>
    have hcloses : isOf .tagClose "style" closing = true := by simpa using hrest closing rfl
    obtain ⟨attributes, behind, rfl, hattributes, hlongest⟩ := exists_run Token.isAttribute rest
    exact ⟨opening :: inside ++ closing :: attributes, behind, by simp,
      .mk hopens hfirst (.closed hcloses hattributes hlongest)⟩

theorem exists_cut (tokens : List Token) : ∃ cut : Cut, cut.Of tokens := by
  induction hlength : tokens.length using Nat.strong_induction_on generalizing tokens with
  | h length ih =>
    obtain ⟨before, rest, rfl, hrun, hrest⟩ :=
      exists_run (fun token => !isOf .tagOpen "style" token) tokens
    have hbefore : ∀ token ∈ before, isOf .tagOpen "style" token = false := by simpa using hrun
    cases rest with
    | nil => exact ⟨⟨before, []⟩, by simp, hbefore, .nil⟩
    | cons opening rest =>
      have hopens : isOf .tagOpen "style" opening = true := by simpa using hrest opening rfl
      obtain ⟨block, behind, heq, hblock⟩ := exists_block hopens rest
      have hshorter : behind.length < length := by
        obtain ⟨_, _, rfl, -⟩ := hblock.head_opens
        rw [← hlength, heq]
        simp only [List.length_append, List.length_cons]
        omega
      obtain ⟨⟨kept, pieces⟩, htokens, hkept, hpieces⟩ := ih _ hshorter behind rfl
      rw [← htokens] at hblock
      refine ⟨⟨before, ⟨block, kept⟩ :: pieces⟩, ?_, hbefore, .cons hblock hkept hpieces⟩
      rw [heq, ← htokens]
      simp [Piece.tokens]

/-! ## The collector -/

theorem contentOf_append (tokens rest : List Token) :
    contentOf (tokens ++ rest) = contentOf tokens ++ contentOf rest := by
  rw [contentOf, List.filter_append, List.map_append, String.join_append, contentOf, contentOf]

theorem contentOf_cons (token : Token) (tokens : List Token) :
    contentOf (token :: tokens) = contentOf [token] ++ contentOf tokens :=
  contentOf_append [token] tokens

theorem contentOf_eq_empty {tokens : List Token} (h : ∀ token ∈ tokens, token.kind ≠ .content) :
    contentOf tokens = "" := by
  have hnone : tokens.filter (·.kind == .content) = [] := by simpa using h
  rw [contentOf, hnone, List.map_nil, String.join_nil]

theorem kind_ne_content_of_isAttribute {token : Token} (h : token.isAttribute = true) :
    token.kind ≠ .content := by
  intro hkind
  rw [Token.isAttribute, hkind] at h
  cases h

theorem Collected.withCss_eq (token : Token) (collected : Collected) :
    collected.withCss token =
      { collected with css := contentOf [token] ++ collected.css } := by
  unfold withCss
  split
  · next hkind => simp [contentOf, hkind]
  · next hkind => simp [contentOf, hkind]

/-- In a block the content is gathered. A tag that would open a block has no meaning there. -/
theorem collectFrom_inside {inside : List Token}
    (h : ∀ token ∈ inside, isOf .tagClose "style" token = false) (rest : List Token) :
    collectFrom .inBlock (inside ++ rest) =
      { collectFrom .inBlock rest with
        css := contentOf inside ++ (collectFrom .inBlock rest).css } := by
  induction inside with
  | nil => simp [contentOf]
  | cons token inside ih =>
    obtain ⟨htoken, hinside⟩ := List.forall_mem_cons.mp h
    rw [List.cons_append, collectFrom, opensBlock_eq, contentOf_cons]
    by_cases hopens : isOf .tagOpen "style" token = true
    · have hcontent : contentOf [token] = "" :=
        contentOf_eq_empty (by simp [kind_of_isOf hopens])
      rw [if_pos hopens, ih hinside, hcontent, String.empty_append]
    · rw [if_neg hopens]
      simp only [closesBlock_eq, htoken, Bool.false_eq_true, if_false]
      rw [ih hinside, Collected.withCss_eq, String.append_assoc]

theorem collectFrom_closed {closing : Token} {attributes behind : List Token}
    (hcloses : isOf .tagClose "style" closing = true)
    (hattributes : ∀ token ∈ attributes, token.isAttribute = true)
    (hlongest : ∀ token ∈ behind.head?, token.isAttribute = false) :
    collectFrom .inBlock (closing :: attributes ++ behind) = collectFrom .outside behind := by
  have hopens : isOf .tagOpen "style" closing = false := by
    simp [isOf, kind_of_isOf hcloses]
  have hclosing : collectFrom .inClosingTag (attributes ++ behind) = collectFrom .outside behind := by
    induction attributes with
    | nil =>
      cases behind with
      | nil => rfl
      | cons token behind => simp [collectFrom, hlongest token rfl]
    | cons token attributes ih =>
      obtain ⟨htoken, hrest⟩ := List.forall_mem_cons.mp hattributes
      have hnone := not_opens_of_isAttribute htoken
      rw [← ih hrest]
      simp [collectFrom, opensBlock_eq, hnone, htoken]
  rw [List.cons_append, collectFrom, opensBlock_eq, hopens, if_neg Bool.false_ne_true]
  simp only [closesBlock_eq, hcloses, if_true]
  exact hclosing

/-- A block adds its content, and is the last one if it is not closed. -/
theorem IsBlock.collectFrom_outside {block behind : List Token} (h : IsBlock block behind) :
    collectFrom .outside (block ++ behind) =
      { collectFrom .outside behind with
        css := contentOf block ++ (collectFrom .outside behind).css
        unterminated :=
          !block.any (isOf .tagClose "style") || (collectFrom .outside behind).unterminated } := by
  obtain @⟨opening, inside, ending, _, hopens, hfirst, hends⟩ := h
  have hopening : contentOf [opening] = "" :=
    contentOf_eq_empty (by simp [kind_of_isOf hopens])
  rw [List.cons_append, List.cons_append, collectFrom, opensBlock_eq, if_pos hopens,
    List.append_assoc, collectFrom_inside hfirst, contentOf_cons, hopening, contentOf_append,
    String.empty_append]
  cases hends with
  | @closed closing attributes _ hcloses hattributes hlongest =>
    have hending : contentOf (closing :: attributes) = "" := by
      refine contentOf_eq_empty (List.forall_mem_cons.mpr ⟨?_, ?_⟩)
      · simp [kind_of_isOf hcloses]
      · intro token hmem
        exact kind_ne_content_of_isAttribute (hattributes token hmem)
    rw [collectFrom_closed hcloses hattributes hlongest, hending]
    simp [hcloses]
  | unclosed =>
    have hnone : isOf .tagClose "style" opening = false := by
      simp [isOf, kind_of_isOf hopens]
    have hany : inside.any (isOf .tagClose "style") = false := by simpa using hfirst
    simp [collectFrom, contentOf, hnone, hany]

/-- Nothing stands behind a block that is not closed. -/
theorem IsBlock.behind_eq_nil {block behind : List Token} (h : IsBlock block behind)
    (hclosed : block.any (isOf .tagClose "style") = false) : behind = [] := by
  obtain ⟨-, -, hends⟩ := h
  cases hends with
  | closed hcloses => simp [hcloses] at hclosed
  | unclosed => rfl

theorem Blocks.collectFrom_outside {pieces : List Piece} (h : Blocks pieces) :
    collectFrom .outside (pieces.flatMap Piece.tokens) =
      ⟨pieces.flatMap Piece.kept, contentOf (pieces.flatMap Piece.block),
        pieces.getLast?.any fun piece => !piece.block.any (isOf .tagClose "style")⟩ := by
  induction h with
  | nil => rfl
  | @cons piece pieces hblock hkept hpieces ih =>
    rw [List.flatMap_cons, Piece.tokens, List.append_assoc, hblock.collectFrom_outside,
      collectFrom_kept hkept, ih, List.flatMap_cons, List.flatMap_cons, contentOf_append]
    cases pieces with
    | nil => simp
    | cons next pieces =>
      have hclosed : piece.block.any (isOf .tagClose "style") = true := by
        by_contra hnot
        have hnil := hblock.behind_eq_nil (by simpa using hnot)
        obtain ⟨-, hnil⟩ := List.append_eq_nil_iff.mp hnil
        exact nomatch hpieces.unique .nil hnil
      rw [hclosed, List.getLast?_cons_cons]
      rfl

/-- A document can be cut at its style blocks in one way. The collector keeps what stands outside of
them, gathers the content in them, and reports it if the last one is not closed. -/
theorem collectStyleBlocks_cut (tokens : List Token) :
    (∃! cut : Cut, cut.Of tokens) ∧
      ∀ cut : Cut, cut.Of tokens →
        (collectStyleBlocks tokens).tokens = cut.kept ∧
        (collectStyleBlocks tokens).css = cut.css ∧
        ∀ records, Id.run ((reportUnterminated tokens : Logged Unit).run records) =
          ((), if cut.unterminated then records ++ [unterminatedRecord] else records) := by
  constructor
  · obtain ⟨cut, hcut⟩ := exists_cut tokens
    exact ⟨cut, hcut, fun other hother => hother.unique hcut⟩
  · intro cut hcut
    have hcollected : collectStyleBlocks tokens = ⟨cut.kept, cut.css, cut.unterminated⟩ := by
      rw [← hcut.tokens_eq, collectStyleBlocks, collectFrom_kept hcut.before,
        hcut.pieces.collectFrom_outside]
      rfl
    refine ⟨by rw [hcollected], by rw [hcollected], ?_⟩
    intro records
    rw [reportUnterminated, hcollected]
    cases cut.unterminated <;> rfl

/-- A closing tag of no block, a block with an opening tag in it and an attribute behind its name,
and one that is never closed. -/
def twoBlocks : Cut where
  before := [⟨.tagClose, "style"⟩]
  pieces :=
    [⟨[⟨.tagOpen, "STYLE "⟩, ⟨.content, "a"⟩, ⟨.tagOpen, "style"⟩, ⟨.content, "b"⟩,
        ⟨.tagClose, "style "⟩, ⟨.attributeName, "x"⟩], []⟩,
      ⟨[⟨.tagOpen, "style"⟩, ⟨.content, "c"⟩], []⟩]

theorem collectStyleBlocks_cut_twoBlocks :
    twoBlocks.Of (twoBlocks.before ++ twoBlocks.pieces.flatMap Piece.tokens) ∧
      (collectStyleBlocks (twoBlocks.before ++ twoBlocks.pieces.flatMap Piece.tokens)).tokens =
        [⟨.tagClose, "style"⟩] ∧
      (collectStyleBlocks (twoBlocks.before ++ twoBlocks.pieces.flatMap Piece.tokens)).css =
        "abc" := by
  have hlast : IsBlock [⟨.tagOpen, "style"⟩, ⟨.content, "c"⟩] [] :=
    @IsBlock.mk _ [⟨.content, "c"⟩] _ _ (by decide) (by decide) .unclosed
  have hfirst : IsBlock [⟨.tagOpen, "STYLE "⟩, ⟨.content, "a"⟩, ⟨.tagOpen, "style"⟩,
      ⟨.content, "b"⟩, ⟨.tagClose, "style "⟩, ⟨.attributeName, "x"⟩]
      [⟨.tagOpen, "style"⟩, ⟨.content, "c"⟩] :=
    @IsBlock.mk _ [⟨.content, "a"⟩, ⟨.tagOpen, "style"⟩, ⟨.content, "b"⟩] _ _ (by decide)
      (by decide) (.closed (by decide) (by simp [Token.isAttribute, Kind.isAttribute])
        (by simp [Token.isAttribute, Kind.isAttribute]))
  have hcut : twoBlocks.Of (twoBlocks.before ++ twoBlocks.pieces.flatMap Piece.tokens) :=
    ⟨rfl, by decide,
      .cons hfirst (by simp) (.cons hlast (by simp) .nil)⟩
  have h := (collectStyleBlocks_cut _).2 twoBlocks hcut
  exact ⟨hcut, h.1, h.2.1⟩

end MailTemplate.Inlining
