import ArrowMachine.Proofs.Outcome
import ArrowMachine.Proofs.Rule.Grammar
import ArrowMachine.Rule.Parser

/-!
Reading states and arrows.

For each function that reads a part of a rule there are two facts. What it returns is written where it
read (`readArrow_sound`), and a part that is written there is returned, with places of its own
(`readArrow_complete`). A function that reads on from a token is described from before that token.
-/
namespace ArrowMachine.Rule

/-! ## Outcomes -/

theorem Delivers.bind {α β : Type} {m n : Nat} {x : Except SyntaxFault (Read α m)}
    {f : Read α m → Except SyntaxFault (Read β n)} {a : α} {b : β} {e d : Cursor}
    (hx : Delivers x a e) (hf : ∀ h, Delivers (f ⟨a, e, h⟩) b d) : Delivers (x >>= f) b d := by
  obtain ⟨h, rfl⟩ := hx
  exact hf h

theorem Token.fits_word {t : Token} {k : Terminal} (hk : t.kind = k) : t.Fits (t.word.lexeme k) :=
  ⟨hk, fun _ hs => Option.some.inj hs, fun _ hp => Option.some.inj hp⟩

theorem Token.fits_sign {t : Token} {k : Terminal} (hk : t.kind = k) : t.Fits (.sign k) :=
  ⟨hk, fun _ hs => (nomatch hs), fun _ hp => (nomatch hp)⟩

theorem Token.fits_sign_pos {t : Token} {k : Terminal} (hk : t.kind = k) : t.Fits (.sign k t.pos) :=
  ⟨hk, fun _ hs => (nomatch hs), fun _ hp => Option.some.inj hp⟩

/-! ## States -/

theorem readNamed_sound {mark : Option Position} {c : Cursor} {r : Read StateSpelling c.rest.length}
    (h : readNamed mark c = .ok r) : r.value.mark = mark ∧ c.Reads r.value.named r.after := by
  obtain ⟨t, ht, h⟩ := bind_eq_ok h
  obtain ⟨hexp, htake⟩ := take_sound ht
  split at h
  · next hparen =>
    obtain ⟨n, hn, h⟩ := bind_eq_ok h
    obtain ⟨r', hr, h⟩ := bind_eq_ok h
    cases h
    have hname := take_sound hn
    have hclose := take_sound hr
    simp only [List.mem_singleton] at hname hclose
    exact ⟨rfl, .cons htake (Token.fits_sign_pos hparen) (.cons hname.2 (Token.fits_word hname.1)
      (.cons hclose.2 (Token.fits_sign hclose.1) .nil))⟩
  · next hparen =>
    cases h
    have hname : t.value.kind = .name := by simpa [hparen] using hexp
    exact ⟨rfl, .cons htake (Token.fits_word hname) .nil⟩

theorem readNamed_complete (mark : Option Position) {s : StateSpelling} {c d : Cursor}
    (h : c.Reads (s.named.map Lexeme.bare) d) :
    ∃ s', Delivers (readNamed mark c) s' d ∧ s'.bare = { s with mark := mark }.bare := by
  unfold StateSpelling.named at h
  split at h
  · next hparen =>
    simp only [List.map_cons, List.map_nil, Cursor.reads_cons, Cursor.reads_nil,
      Token.fits_bare_word] at h
    obtain ⟨t, e, ht, ⟨hname, htext⟩, rfl⟩ := h
    refine ⟨⟨mark, none, t.word⟩, ?_, by simp [StateSpelling.bare, hparen, Token.word_bare htext]⟩
    refine (take_complete (by decide) (by decide) hname ht).bind fun _ => ?_
    rw [if_neg (by simp [hname])]
    exact ⟨_, rfl⟩
  · next p hparen =>
    simp only [List.map_cons, List.map_nil, Cursor.reads_cons, Cursor.reads_nil,
      Token.fits_bare_word, Token.fits_bare_sign] at h
    obtain ⟨t, e, ht, hopen, n, f, hn, ⟨hname, htext⟩, r, g, hr, hclose, rfl⟩ := h
    refine ⟨⟨mark, some t.pos, n.word⟩, ?_,
      by simp [StateSpelling.bare, hparen, Token.word_bare htext]⟩
    refine (take_complete (by decide) (by decide) hopen ht).bind fun _ => ?_
    rw [if_pos hopen]
    refine (take_complete (by decide) (by decide) hname hn).bind fun _ => ?_
    refine (take_complete (by decide) (by decide) hclose hr).bind fun _ => ?_
    exact ⟨_, rfl⟩

/-- A state without a mark is read on from its first token as it is from before it. -/
theorem readStateFrom_iff_readNamed {c₀ c : Cursor} {t : Token} (ht : c₀.Takes t c)
    (hkind : t.kind = .name ∨ t.kind = .lpar) {s : StateSpelling} {d : Cursor} :
    Delivers (readStateFrom t c) s d ↔ Delivers (readNamed none c₀) s d := by
  have hmem : t.kind ∈ [Terminal.name, .lpar] := by simpa using hkind
  obtain ⟨h, htake⟩ := take_complete (by decide) hmem rfl ht
  have hmark : t.kind ≠ .mark := by rcases hkind with hk | hk <;> simp [hk]
  unfold readStateFrom readNamed
  rw [htake, if_neg hmark]
  by_cases hparen : t.kind = .lpar
  · simp only [bind, Except.bind, hparen, if_true]
    cases c.take [.name] with
    | error => constructor <;> (rintro ⟨_, heq⟩; cases heq)
    | ok n =>
      dsimp only
      cases n.after.take [.rpar] with
      | error => constructor <;> (rintro ⟨_, heq⟩; cases heq)
      | ok r => constructor <;> (rintro ⟨_, heq⟩; cases heq; exact ⟨_, rfl⟩)
  · simp only [bind, Except.bind, hparen, if_false]
    constructor <;> (rintro ⟨_, heq⟩; cases heq; exact ⟨_, rfl⟩)

theorem readStateFrom_sound {c₀ c : Cursor} {t : Token} (ht : c₀.Takes t c)
    (hkind : t.kind ∈ stateStarts) {r : Read StateSpelling (c.rest.length + 1)}
    (h : readStateFrom t c = .ok r) : c₀.Reads r.value.lexemes r.after := by
  by_cases hmark : t.kind = .mark
  · rw [readStateFrom, if_pos hmark] at h
    obtain ⟨s, hs, h⟩ := bind_eq_ok h
    cases h
    obtain ⟨hmarked, hnamed⟩ := readNamed_sound hs
    change c₀.Reads s.value.lexemes s.after
    rw [StateSpelling.lexemes, hmarked]
    exact .cons ht (Token.fits_sign_pos hmark) hnamed
  · have hother : t.kind = .name ∨ t.kind = .lpar := by simpa [stateStarts, hmark] using hkind
    obtain ⟨_, hread⟩ := (readStateFrom_iff_readNamed ht hother).1 ⟨r.shorter, h⟩
    obtain ⟨hmarked, hnamed⟩ := readNamed_sound hread
    rw [StateSpelling.lexemes, hmarked]
    exact hnamed

theorem readStateFrom_complete {s : StateSpelling} {c₀ d : Cursor}
    (h : c₀.Reads (s.lexemes.map Lexeme.bare) d) :
    ∃ t c s', c₀.Takes t c ∧ t.kind ∈ stateStarts ∧ Delivers (readStateFrom t c) s' d ∧
      s'.bare = s.bare := by
  unfold StateSpelling.lexemes at h
  split at h
  · next hmark =>
    -- The first token of the name is also what the state begins with.
    obtain ⟨t, c, ht, hkind⟩ : ∃ t c, c₀.Takes t c ∧ (t.kind = .name ∨ t.kind = .lpar) := by
      unfold StateSpelling.named at h
      split at h
      · simp only [List.map_cons, Cursor.reads_cons, Token.fits_bare_word] at h
        obtain ⟨t, c, ht, ⟨hname, _⟩, _⟩ := h
        exact ⟨t, c, ht, Or.inl hname⟩
      · simp only [List.map_cons, Cursor.reads_cons, Token.fits_bare_sign] at h
        obtain ⟨t, c, ht, hparen, _⟩ := h
        exact ⟨t, c, ht, Or.inr hparen⟩
    obtain ⟨s', hs', hbare⟩ := readNamed_complete none h
    refine ⟨t, c, s', ht, ?_, (readStateFrom_iff_readNamed ht hkind).2 hs', ?_⟩
    · rcases hkind with hk | hk <;> rw [hk] <;> decide
    · rw [hbare, ← hmark]
  · next p hmark =>
    simp only [List.map_cons, Cursor.reads_cons, Token.fits_bare_sign] at h
    obtain ⟨t, c, ht, hdot, h⟩ := h
    obtain ⟨s', hs', hbare⟩ := readNamed_complete (some t.pos) h
    refine ⟨t, c, s', ht, by rw [hdot]; decide, ?_, ?_⟩
    · rw [readStateFrom, if_pos hdot]
      exact hs'.bind fun _ => ⟨_, rfl⟩
    · rw [hbare]
      simp [StateSpelling.bare, hmark]

/-! ## Arrows -/

theorem channelLexemes_cons (ch : ChannelSpelling) (channels : List ChannelSpelling) :
    channelLexemes (ch :: channels) =
      .sign .comma :: (ch.lexemes ++ channelLexemes channels) := by
  simp [channelLexemes]

theorem furtherPushes_cons (w : Word) (pushes : List Word) :
    furtherPushes (w :: pushes) = .sign .comma :: w.lexeme .symbol :: furtherPushes pushes := rfl

/-- The token `t` is the separator that the channels begin with or the end of the bracket. -/
theorem readChannels_sound {separator : Terminal} {c : Cursor} {done : List ChannelSpelling}
    {c₀ : Cursor} {t : Token} (ht : c₀.Takes t c) (hkind : t.kind = separator)
    (hsep : separator ∈ [Terminal.comma, .rsqb])
    {r : Read (List ChannelSpelling) (c.rest.length + 1)}
    (h : readChannels separator c done = .ok r) :
    ∃ channels, r.value = done ++ channels ∧ c₀.Reads (channelLexemes channels) r.after := by
  induction separator, c, done using readChannels.induct generalizing c₀ t with
  | case1 c done ihWrite ihBoth ihRead =>
    rw [readChannels, if_pos rfl] at h
    obtain ⟨u, hu, h⟩ := bind_eq_ok h
    obtain ⟨hexp, hread⟩ := take_sound hu
    split at h
    · next hcolon =>
      obtain ⟨w, hw, h⟩ := bind_eq_ok h
      obtain ⟨s, hs, h⟩ := bind_eq_ok h
      obtain ⟨r', hr', h⟩ := bind_eq_ok h
      cases h
      obtain ⟨hsymbol, hwrite⟩ := take_sound hw
      obtain ⟨hnext, hs⟩ := take_sound hs
      obtain ⟨channels, hvalue, hrest⟩ := ihWrite u w s hs rfl hnext hr'
      refine ⟨.write w.value.word :: channels, by simp [Read.widen, hvalue], ?_⟩
      rw [channelLexemes_cons]
      exact .cons ht (Token.fits_sign hkind) (.cons hread (Token.fits_sign hcolon)
        (.cons hwrite (Token.fits_word (List.mem_singleton.1 hsymbol)) hrest))
    · next hcolon =>
      have hsymbol : u.value.kind = .symbol := by simpa [hcolon] using hexp
      obtain ⟨s, hs, h⟩ := bind_eq_ok h
      obtain ⟨hnext, hs⟩ := take_sound hs
      split at h
      · next hcolon' =>
        obtain ⟨w, hw, h⟩ := bind_eq_ok h
        obtain ⟨s', hs', h⟩ := bind_eq_ok h
        obtain ⟨r', hr', h⟩ := bind_eq_ok h
        cases h
        obtain ⟨hsymbol', hwrite⟩ := take_sound hw
        obtain ⟨hnext', hs'⟩ := take_sound hs'
        obtain ⟨channels, hvalue, hrest⟩ := ihBoth u s w s' hs' rfl hnext' hr'
        refine ⟨.readWrite u.value.word w.value.word :: channels, by simp [Read.widen, hvalue], ?_⟩
        rw [channelLexemes_cons]
        exact .cons ht (Token.fits_sign hkind) (.cons hread (Token.fits_word hsymbol)
          (.cons hs (Token.fits_sign hcolon')
            (.cons hwrite (Token.fits_word (List.mem_singleton.1 hsymbol')) hrest)))
      · next hcolon' =>
        obtain ⟨r', hr', h⟩ := bind_eq_ok h
        cases h
        have hnext' : s.value.kind ∈ [Terminal.comma, .rsqb] := by simpa [hcolon'] using hnext
        obtain ⟨channels, hvalue, hrest⟩ := ihRead u s hs rfl hnext' hr'
        refine ⟨.read u.value.word :: channels, by simp [Read.widen, hvalue], ?_⟩
        rw [channelLexemes_cons]
        exact .cons ht (Token.fits_sign hkind) (.cons hread (Token.fits_word hsymbol) hrest)
  | case2 separator c done hcomma =>
    rw [readChannels, if_neg hcomma] at h
    cases h
    have hclose : separator = .rsqb := by simpa [hcomma] using hsep
    exact ⟨[], (List.append_nil _).symm, .cons ht (Token.fits_sign (hkind.trans hclose)) .nil⟩

theorem readChannels_complete {channels : List ChannelSpelling} (done : List ChannelSpelling)
    {c₀ d : Cursor} (h : c₀.Reads ((channelLexemes channels).map Lexeme.bare) d) :
    ∃ t c channels', c₀.Takes t c ∧ t.kind ∈ [Terminal.comma, .rsqb] ∧
      Delivers (readChannels t.kind c done) (done ++ channels') d ∧
      channels'.map ChannelSpelling.bare = channels.map ChannelSpelling.bare := by
  induction channels generalizing done c₀ with
  | nil =>
    simp only [channelLexemes, List.flatMap_nil, List.nil_append, List.map_cons, List.map_nil,
      Cursor.reads_cons, Cursor.reads_nil, Token.fits_bare_sign] at h
    obtain ⟨t, c, ht, hclose, rfl⟩ := h
    refine ⟨t, c, [], ht, by simp [hclose], ?_, rfl⟩
    rw [readChannels, if_neg (by simp [hclose]), List.append_nil]
    exact ⟨_, rfl⟩
  | cons ch channels ih =>
    rw [channelLexemes_cons] at h
    cases ch with
    | read r =>
      simp only [ChannelSpelling.lexemes, List.map_cons, List.cons_append, List.nil_append,
        Cursor.reads_cons, Token.fits_bare_sign, Token.fits_bare_word] at h
      obtain ⟨t, c, ht, hcomma, u, e, hu, ⟨hsymbol, hread⟩, h⟩ := h
      obtain ⟨s, f, channels', hs, hnext, hrest, hbare⟩ := ih (done ++ [.read u.word]) h
      refine ⟨t, c, .read u.word :: channels', ht, by simp [hcomma], ?_, ?_⟩
      · rw [hcomma, readChannels, if_pos rfl]
        refine (take_complete (by decide) (by decide) hsymbol hu).bind fun _ => ?_
        rw [if_neg (by simp [hsymbol])]
        refine (take_complete (by decide) (List.mem_cons_of_mem _ hnext) rfl hs).bind fun _ => ?_
        have hcolon : s.kind ≠ .colon := by
          rintro hcolon
          rw [hcolon] at hnext
          revert hnext
          decide
        rw [if_neg hcolon]
        refine hrest.bind fun _ => ?_
        rw [List.append_assoc]
        exact ⟨_, rfl⟩
      · simp [ChannelSpelling.bare, Token.word_bare hread, hbare]
    | readWrite r w =>
      simp only [ChannelSpelling.lexemes, List.map_cons, List.cons_append, List.nil_append,
        Cursor.reads_cons, Token.fits_bare_sign, Token.fits_bare_word] at h
      obtain ⟨t, c, ht, hcomma, u, e, hu, ⟨hsymbol, hread⟩, v, f, hv, hcolon, x, g, hx,
        ⟨hsymbol', hwrite⟩, h⟩ := h
      obtain ⟨s, g', channels', hs, hnext, hrest, hbare⟩ := ih (done ++ [.readWrite u.word x.word]) h
      refine ⟨t, c, .readWrite u.word x.word :: channels', ht, by simp [hcomma], ?_, ?_⟩
      · rw [hcomma, readChannels, if_pos rfl]
        refine (take_complete (by decide) (by decide) hsymbol hu).bind fun _ => ?_
        rw [if_neg (by simp [hsymbol])]
        refine (take_complete (by decide) (by decide) hcolon hv).bind fun _ => ?_
        rw [if_pos hcolon]
        refine (take_complete (by decide) (by decide) hsymbol' hx).bind fun _ => ?_
        refine (take_complete (by decide) hnext rfl hs).bind fun _ => ?_
        refine hrest.bind fun _ => ?_
        rw [List.append_assoc]
        exact ⟨_, rfl⟩
      · simp [ChannelSpelling.bare, Token.word_bare hread, Token.word_bare hwrite, hbare]
    | write w =>
      simp only [ChannelSpelling.lexemes, List.map_cons, List.cons_append, List.nil_append,
        Cursor.reads_cons, Token.fits_bare_sign, Token.fits_bare_word] at h
      obtain ⟨t, c, ht, hcomma, v, f, hv, hcolon, x, g, hx, ⟨hsymbol, hwrite⟩, h⟩ := h
      obtain ⟨s, g', channels', hs, hnext, hrest, hbare⟩ := ih (done ++ [.write x.word]) h
      refine ⟨t, c, .write x.word :: channels', ht, by simp [hcomma], ?_, ?_⟩
      · rw [hcomma, readChannels, if_pos rfl]
        refine (take_complete (by decide) (by decide) hcolon hv).bind fun _ => ?_
        rw [if_pos hcolon]
        refine (take_complete (by decide) (by decide) hsymbol hx).bind fun _ => ?_
        refine (take_complete (by decide) hnext rfl hs).bind fun _ => ?_
        refine hrest.bind fun _ => ?_
        rw [List.append_assoc]
        exact ⟨_, rfl⟩
      · simp [ChannelSpelling.bare, Token.word_bare hwrite, hbare]

theorem discerning_closers (opener : Terminal) : Discerning (closers opener) := by
  unfold closers
  split <;> decide

theorem discerning_comma_closers (opener : Terminal) : Discerning (.comma :: closers opener) := by
  unfold closers
  split <;> decide

theorem discerning_symbol_closers (opener : Terminal) : Discerning (.symbol :: closers opener) := by
  unfold closers
  split <;> decide

/-- What closes an arrow is neither a comma nor a symbol. -/
theorem closer_ne {opener closer : Terminal} (h : closer ∈ closers opener) :
    closer ≠ .comma ∧ closer ≠ .symbol := by
  have hends : closer = .more ∨ closer = .minus := by
    revert h
    unfold closers
    split <;> simp +contextual
  rcases hends with rfl | rfl <;> decide

theorem readPushes_sound {opener : Terminal} {c : Cursor} {done : List Word}
    {r : Read (List Word × Terminal) c.rest.length} (h : readPushes opener c done = .ok r) :
    r.value.2 ∈ closers opener ∧ ∃ pushes, r.value.1 = done ++ pushes ∧
      c.Reads (furtherPushes pushes ++ [.sign r.value.2]) r.after := by
  induction c, done using readPushes.induct with
  | case1 c done ih =>
    rw [readPushes] at h
    obtain ⟨t, ht, h⟩ := bind_eq_ok h
    obtain ⟨hexp, ht⟩ := take_sound ht
    split at h
    · next hcomma =>
      obtain ⟨w, hw, h⟩ := bind_eq_ok h
      obtain ⟨r', hr', h⟩ := bind_eq_ok h
      cases h
      obtain ⟨hsymbol, hw⟩ := take_sound hw
      obtain ⟨hclose, pushes, hvalue, hrest⟩ := ih t w hr'
      refine ⟨hclose, w.value.word :: pushes, by simp [Read.widen, hvalue], ?_⟩
      rw [furtherPushes_cons]
      exact .cons ht (Token.fits_sign hcomma)
        (.cons hw (Token.fits_word (List.mem_singleton.1 hsymbol)) hrest)
    · next hcomma =>
      cases h
      exact ⟨(List.mem_cons.1 hexp).resolve_left hcomma, [], (List.append_nil _).symm,
        .cons ht (Token.fits_sign rfl) .nil⟩

theorem readPushes_complete {opener closer : Terminal} (hcloser : closer ∈ closers opener)
    {pushes : List Word} (done : List Word) {c d : Cursor}
    (h : c.Reads ((furtherPushes pushes ++ [Lexeme.sign closer]).map Lexeme.bare) d) :
    ∃ pushes', Delivers (readPushes opener c done) (done ++ pushes', closer) d ∧
      pushes'.map Word.bare = pushes.map Word.bare := by
  induction pushes generalizing done c with
  | nil =>
    simp only [furtherPushes, List.flatMap_nil, List.nil_append, List.map_cons, List.map_nil,
      Cursor.reads_cons, Cursor.reads_nil, Token.fits_bare_sign] at h
    obtain ⟨t, e, ht, hclose, rfl⟩ := h
    refine ⟨[], ?_, rfl⟩
    rw [readPushes]
    refine (take_complete (discerning_comma_closers opener) (List.mem_cons_of_mem _ hcloser) hclose
      ht).bind fun _ => ?_
    have hcomma : t.kind ≠ .comma := hclose ▸ (closer_ne hcloser).1
    rw [if_neg hcomma, List.append_nil, ← hclose]
    exact ⟨_, rfl⟩
  | cons w pushes ih =>
    simp only [furtherPushes_cons, List.cons_append, List.map_cons, Cursor.reads_cons,
      Token.fits_bare_sign, Token.fits_bare_word] at h
    obtain ⟨t, e, ht, hcomma, u, f, hu, ⟨hsymbol, htext⟩, h⟩ := h
    obtain ⟨pushes', hrest, hbare⟩ := ih (done ++ [u.word]) h
    refine ⟨u.word :: pushes', ?_, by simp [Token.word_bare htext, hbare]⟩
    rw [readPushes]
    refine (take_complete (discerning_comma_closers opener) List.mem_cons_self hcomma ht).bind fun _ => ?_
    rw [if_pos hcomma]
    refine (take_complete (by decide) (by decide) hsymbol hu).bind fun _ => ?_
    refine hrest.bind fun _ => ?_
    rw [List.append_assoc]
    exact ⟨_, rfl⟩

theorem Direction.ofEnds_opener {opener closer : Terminal} (h : opener ∈ openers) :
    (Direction.ofEnds opener closer).opener = opener := by
  simp only [openers, List.mem_cons, List.not_mem_nil, or_false] at h
  rcases h with rfl | rfl
  · rfl
  · unfold Direction.ofEnds
    split
    · contradiction
    · split <;> rfl

theorem Direction.ofEnds_closer {opener closer : Terminal} (h : opener ∈ openers)
    (hclose : closer ∈ closers opener) : (Direction.ofEnds opener closer).closer = closer := by
  simp only [openers, List.mem_cons, List.not_mem_nil, or_false] at h
  rcases h with rfl | rfl
  · obtain rfl := List.mem_singleton.1 hclose
    rfl
  · have hends : closer = .more ∨ closer = .minus := by simpa [closers] using hclose
    rcases hends with rfl | rfl <;> rfl

theorem Direction.ofEnds_self (d : Direction) : Direction.ofEnds d.opener d.closer = d := by
  cases d <;> rfl

theorem Direction.opener_mem (d : Direction) : d.opener ∈ openers := by
  cases d <;> decide

theorem Direction.closer_mem (d : Direction) : d.closer ∈ closers d.opener := by
  cases d <;> decide

theorem ArrowSpelling.shaft_bracket (dir : Direction) (l : Word) (channels : List ChannelSpelling)
    (pushes : List Word) : (⟨dir, .bracket l channels pushes⟩ : ArrowSpelling).shaft =
      .sign .lsqb :: l.lexeme .symbol ::
        (channelLexemes channels ++ (pushLexemes pushes ++ [.sign dir.closer])) := by
  simp [ArrowSpelling.shaft, BodySpelling.lexemes]

theorem readArrow_sound {opener : Terminal} (hopener : opener ∈ openers) {c : Cursor}
    {r : Read ArrowSpelling c.rest.length} (h : readArrow opener c = .ok r) :
    r.value.direction.opener = opener ∧ c.Reads r.value.shaft r.after := by
  obtain ⟨t, ht, h⟩ := bind_eq_ok h
  obtain ⟨hexp, ht⟩ := take_sound ht
  split at h
  · next hbracket =>
    obtain ⟨l, hl, h⟩ := bind_eq_ok h
    obtain ⟨s, hs, h⟩ := bind_eq_ok h
    obtain ⟨chans, hchans, h⟩ := bind_eq_ok h
    obtain ⟨p, hp, h⟩ := bind_eq_ok h
    obtain ⟨hlabel, hl⟩ := take_sound hl
    obtain ⟨hsep, hs⟩ := take_sound hs
    obtain ⟨hpush, hp⟩ := take_sound hp
    obtain ⟨channels, hvalue, hchannels⟩ := readChannels_sound hs rfl hsep hchans
    rw [List.nil_append] at hvalue
    -- What stands up to the end of the bracket is the same whether or not anything is pushed.
    have hbehind : ∀ dir pushes d, chans.after.Reads (pushLexemes pushes ++ [.sign dir.closer]) d →
        c.Reads (ArrowSpelling.shaft ⟨dir, .bracket l.value.word chans.value pushes⟩) d := by
      intro dir pushes d hrest
      rw [ArrowSpelling.shaft_bracket, hvalue]
      exact .cons ht (Token.fits_sign hbracket)
        (.cons hl (Token.fits_word (List.mem_singleton.1 hlabel))
          (Cursor.reads_append.2 ⟨_, hchannels, hrest⟩))
    dsimp only at h
    split at h
    · next hsymbol =>
      obtain ⟨r', hr', h⟩ := bind_eq_ok h
      cases h
      obtain ⟨hclose, pushes, hpushes, hrest⟩ := readPushes_sound hr'
      refine ⟨Direction.ofEnds_opener hopener, hbehind _ _ _ ?_⟩
      rw [Direction.ofEnds_closer hopener hclose, hpushes]
      exact .cons hp (Token.fits_word hsymbol) hrest
    · next hsymbol =>
      cases h
      have hclose : p.value.kind ∈ closers opener := (List.mem_cons.1 hpush).resolve_left hsymbol
      refine ⟨Direction.ofEnds_opener hopener, hbehind _ [] _ (.cons hp ?_ .nil)⟩
      rw [Direction.ofEnds_closer hopener hclose]
      exact Token.fits_sign rfl
  · next hbracket =>
    obtain ⟨e, he, h⟩ := bind_eq_ok h
    cases h
    obtain ⟨hclose, he⟩ := take_sound he
    have hlabel : t.value.kind = .symbol := by simpa [hbracket] using hexp
    refine ⟨Direction.ofEnds_opener hopener, .cons ht (Token.fits_word hlabel) (.cons he ?_ .nil)⟩
    rw [Direction.ofEnds_closer hopener hclose]
    exact Token.fits_sign rfl

theorem readArrow_complete {a : ArrowSpelling} {c d : Cursor}
    (h : c.Reads (a.shaft.map Lexeme.bare) d) :
    ∃ a', Delivers (readArrow a.direction.opener c) a' d ∧ a'.bare = a.bare := by
  obtain ⟨dir, body⟩ := a
  have hcloser := dir.closer_mem
  cases body with
  | plain l =>
    simp only [ArrowSpelling.shaft, BodySpelling.lexemes, List.map_cons, List.map_nil,
      List.cons_append, List.nil_append, Cursor.reads_cons, Cursor.reads_nil, Token.fits_bare_sign,
      Token.fits_bare_word] at h
    obtain ⟨t, e, ht, ⟨hsymbol, htext⟩, z, f, hz, hclose, rfl⟩ := h
    refine ⟨⟨dir, .plain t.word⟩, ?_,
      by simp [ArrowSpelling.bare, BodySpelling.bare, Token.word_bare htext]⟩
    refine (take_complete (by decide) (by decide) hsymbol ht).bind fun _ => ?_
    rw [if_neg (by simp [hsymbol])]
    refine (take_complete (discerning_closers _) hcloser hclose hz).bind fun _ => ?_
    rw [hclose, Direction.ofEnds_self]
    exact ⟨_, rfl⟩
  | bracket l channels pushes =>
    rw [ArrowSpelling.shaft_bracket] at h
    simp only [List.map_cons, Cursor.reads_cons, Token.fits_bare_sign, Token.fits_bare_word] at h
    obtain ⟨t, e, ht, hbracket, u, f, hu, ⟨hsymbol, htext⟩, h⟩ := h
    rw [List.map_append, Cursor.reads_append] at h
    obtain ⟨g, hchannels, hrest⟩ := h
    obtain ⟨s, e', channels', hs, hsep, hread, hbare⟩ := readChannels_complete [] hchannels
    -- Up to the end of the bracket the reader does the same whether or not anything is pushed.
    have hbehind : ∀ {z g'} {a' : ArrowSpelling}, g.Takes z g' →
        z.kind ∈ .symbol :: closers dir.opener →
        (z.kind = .symbol → ∃ pushes', Delivers (readPushes dir.opener g' [z.word])
          (pushes', dir.closer) d ∧ a' = ⟨dir, .bracket u.word channels' pushes'⟩) →
        (z.kind ≠ .symbol → z.kind = dir.closer ∧ g' = d ∧
          a' = ⟨dir, .bracket u.word channels' []⟩) →
        Delivers (readArrow dir.opener c) a' d := by
      intro z g' a' hz hmem hpush hno
      refine (take_complete (by decide) (by decide) hbracket ht).bind fun _ => ?_
      rw [if_pos hbracket]
      refine (take_complete (by decide) (by decide) hsymbol hu).bind fun _ => ?_
      refine (take_complete (by decide) hsep rfl hs).bind fun _ => ?_
      refine hread.bind fun _ => ?_
      refine (take_complete (discerning_symbol_closers _) hmem rfl hz).bind fun _ => ?_
      by_cases hsym : z.kind = .symbol
      · obtain ⟨pushes', hrest, rfl⟩ := hpush hsym
        dsimp only
        rw [if_pos hsym]
        refine hrest.bind fun _ => ?_
        rw [Direction.ofEnds_self]
        exact ⟨_, rfl⟩
      · obtain ⟨hclose, rfl, rfl⟩ := hno hsym
        dsimp only
        rw [if_neg hsym, hclose, Direction.ofEnds_self]
        exact ⟨_, rfl⟩
    cases pushes with
    | nil =>
      simp only [pushLexemes, List.nil_append, List.map_cons, List.map_nil, Cursor.reads_cons,
        Cursor.reads_nil, Token.fits_bare_sign] at hrest
      obtain ⟨z, g', hz, hclose, rfl⟩ := hrest
      refine ⟨⟨dir, .bracket u.word channels' []⟩, hbehind hz ?_ (fun hsym => ?_) fun _ =>
        ⟨hclose, rfl, rfl⟩, ?_⟩
      · exact List.mem_cons_of_mem _ (hclose ▸ hcloser)
      · exact absurd (hclose.symm.trans hsym) (closer_ne hcloser).2
      · simp [ArrowSpelling.bare, BodySpelling.bare, Token.word_bare htext, hbare]
    | cons w pushes =>
      simp only [pushLexemes, List.cons_append, List.map_cons, Cursor.reads_cons,
        Token.fits_bare_word] at hrest
      obtain ⟨z, g', hz, ⟨hsym, hpush⟩, hrest⟩ := hrest
      obtain ⟨pushes', hrest, hpushes⟩ := readPushes_complete hcloser [z.word] hrest
      refine ⟨⟨dir, .bracket u.word channels' (z.word :: pushes')⟩, hbehind hz ?_ (fun _ =>
        ⟨_, hrest, rfl⟩) fun hno => absurd hsym hno, ?_⟩
      · exact List.mem_cons.2 (Or.inl hsym)
      · simp [ArrowSpelling.bare, BodySpelling.bare, Token.word_bare htext, hbare,
          Token.word_bare hpush, hpushes]

end ArrowMachine.Rule
