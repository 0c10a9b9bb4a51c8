import Corgtex.Domain.MeetingBlocks
import Corgtex.Library.JsLines

/-!
# The header of a meeting block

`meeting-blocks.ts`: the body of an insight is stored with two lines that name
its block, and shown without them. `stripMeetingBlockContext_prepend_iff` says when the body comes
back: the header is taken to be two lines long, and a title may have a line feed in it.
-/

namespace Corgtex.Domain.MeetingBlocks

open JsString List

/-- `MEETING_BLOCK_METADATA_PREFIX`. -/
def meetingBlockMetadataPrefix : JsString := lit "**MEETING BLOCK:**"

/-- `MEETING_BLOCK_KIND_PREFIX`. -/
def meetingBlockKindPrefix : JsString := lit "**BLOCK KIND:**"

/-- `block.kind.replace(/_/g, " ")`. -/
def kindLabel (kind : JsString) : JsString := kind.map fun u => if u = underscore then 0x20 else u

/-- The first line of the header. -/
def titleLine (block : MeetingBlock) : JsString :=
  meetingBlockMetadataPrefix ++ lit " " ++ block.title

/-- The second line of the header. -/
def kindLine (block : MeetingBlock) : JsString :=
  meetingBlockKindPrefix ++ lit " " ++ kindLabel block.kind

/-- `prependMeetingBlockContext` (line 137). -/
def prependMeetingBlockContext (bodyMd : JsString) (block : Option MeetingBlock) : JsString :=
  let body := bodyMd.trim
  match block with
  | none => body
  | some block =>
    if meetingBlockMetadataPrefix <+: body then body
    else joinLines [titleLine block, kindLine block, [], body]

/-- The first value of `bodyStartIndex`. -/
def headerLength (lines : List JsString) : ℕ :=
  if ∃ line ∈ lines[1]?, meetingBlockKindPrefix <+: line.trim then 2 else 1

/-- The lines behind the header and the blank lines that follow it. -/
def bodyLines (lines : List JsString) : List JsString :=
  (lines.drop (headerLength lines)).dropWhile fun line => line.trim = []

/-- `stripMeetingBlockContext` (line 148); an absent body is `none`. -/
def stripMeetingBlockContext (bodyMd : Option JsString) : JsString :=
  let body := trim (bodyMd.getD [])
  if meetingBlockMetadataPrefix <+: body then trim (joinLines (bodyLines (splitLines body)))
  else body

/-! ## The header -/

variable {block : MeetingBlock} {body : JsString} {lines : List JsString}

theorem headerLength_le (lines : List JsString) : headerLength lines ≤ 2 := by
  unfold headerLength
  split <;> decide

theorem headerLength_pos (lines : List JsString) : 0 < headerLength lines := by
  unfold headerLength
  split <;> decide

/-- What the header begins with is on one line. -/
theorem singleLine_metadataPrefix :
    ∀ u ∈ meetingBlockMetadataPrefix, u ≠ lineFeed ∧ u ≠ carriageReturn :=
  all_iff_forall_prop.1 (by decide)

theorem head?_titleLine (block : MeetingBlock) : ∀ u ∈ (titleLine block).head?, ¬ isSpace u := by
  intro u hu
  have hstar : u = 0x2A := (Option.some.inj hu).symm
  rw [hstar]
  decide

theorem head?_kindLine (block : MeetingBlock) : ∀ u ∈ (kindLine block).head?, ¬ isSpace u := by
  intro u hu
  have hstar : u = 0x2A := (Option.some.inj hu).symm
  rw [hstar]
  decide

theorem kindLine_ne_nil (block : MeetingBlock) : kindLine block ≠ [] := by
  have hne : meetingBlockKindPrefix ≠ [] := by decide
  simp [kindLine, hne]

section
variable (h : block.IsNormal)
include h

theorem MeetingBlock.IsNormal.getLast?_titleLine :
    ∀ u ∈ (titleLine block).getLast?, ¬ isSpace u := by
  intro u hu
  rw [titleLine, getLast?_append_of_ne_nil _ h.title_ne_nil, ← h.title.trim_eq] at hu
  exact getLast?_trim u hu

/-- A kind keeps its units, but for the underscores inside of it. -/
theorem MeetingBlock.IsNormal.getLast?_kindLine : ∀ u ∈ (kindLine block).getLast?, ¬ isSpace u := by
  intro u hu
  have hne : kindLabel block.kind ≠ [] := by simp [kindLabel, h.kind.ne_nil]
  rw [kindLine, getLast?_append_of_ne_nil _ hne, kindLabel, getLast?_map] at hu
  obtain ⟨v, hv, rfl⟩ := Option.mem_map.1 hu
  have hkind : isKindUnit v ∧ v ≠ underscore := by
    have hlast : ¬ decide (v = underscore) := by
      rw [← h.kind.stripped] at hv
      exact getLast?_dropWhile_rdropWhile _ _ v hv
    have hne : v ≠ underscore := by simpa using hlast
    exact ⟨(h.kind.units v (mem_of_getLast? hv)).resolve_right hne, hne⟩
  rw [if_neg hkind.2]
  exact not_isSpace_of_isWordUnit (h.kind.isWordUnit_of_mem (mem_of_getLast? hv))

theorem MeetingBlock.IsNormal.lineFeed_not_mem_kindLine : lineFeed ∉ kindLine block := by
  intro hmem
  rcases mem_append.1 hmem with hhead | hlabel
  · exact absurd hhead (by decide)
  · obtain ⟨v, hv, hvalue⟩ := mem_map.1 hlabel
    split at hvalue
    · exact absurd hvalue (by decide)
    · have hspace := not_isSpace_of_isWordUnit (h.kind.isWordUnit_of_mem hv)
      rw [hvalue] at hspace
      exact hspace rfl

theorem MeetingBlock.IsNormal.kindLine_trim : (kindLine block).trim = kindLine block :=
  trim_eq_self (head?_kindLine block) h.getLast?_kindLine

end

theorem ne_carriageReturn {s : JsString} (h : ∀ u ∈ s.getLast?, ¬ isSpace u) :
    ∀ u ∈ s.getLast?, u ≠ carriageReturn := by
  rintro u hu rfl
  exact h _ hu rfl

/-! ## A text with its header -/

/-- What stands behind the header. -/
def footer (body : JsString) : JsString := if body = [] then [] else lineFeed :: lineFeed :: body

/-- The lines behind the header. -/
def footerLines (body : JsString) : List JsString := if body = [] then [] else [] :: splitLines body

/-- The text with its header, as it is read again. -/
def headed (block : MeetingBlock) (body : JsString) : JsString :=
  titleLine block ++ lineFeed :: (kindLine block ++ footer body)

theorem headed_eq (block : MeetingBlock) (body : JsString) :
    headed block body = meetingBlockMetadataPrefix ++ (lit " " ++ block.title ++
      lineFeed :: (kindLine block ++ footer body)) := by
  simp [headed, titleLine]

theorem getLast?_footer (hbody : body.trim = body) : ∀ u ∈ (footer body).getLast?, ¬ isSpace u := by
  intro u hu
  rw [footer] at hu
  split at hu
  · cases hu
  · next hne =>
    rw [getLast?_cons_cons, getLast?_cons_of_ne_nil hne, ← hbody] at hu
    exact getLast?_trim u hu

theorem MeetingBlock.IsNormal.trim_headed (h : block.IsNormal) (hbody : body.trim = body) :
    trim (headed block body) = headed block body := by
  refine trim_eq_self (fun u hu => ?_) fun u hu => ?_
  · exact head?_titleLine block u hu
  · rw [headed, getLast?_append_of_ne_nil _ (by simp),
      getLast?_cons_of_ne_nil (by simp [kindLine_ne_nil]), getLast?_append] at hu
    rcases Option.or_eq_some_iff.1 hu with hfooter | ⟨_, hkind⟩
    · exact getLast?_footer hbody u hfooter
    · exact h.getLast?_kindLine u hkind

theorem MeetingBlock.IsNormal.trim_prepend (h : block.IsNormal) (hbody : body.trim = body) :
    trim (joinLines [titleLine block, kindLine block, [], body]) = headed block body := by
  have hjoin : joinLines [titleLine block, kindLine block, [], body] =
      titleLine block ++ lineFeed :: (kindLine block ++ lineFeed :: lineFeed :: body) := by
    simp [joinLines, join]
  rw [hjoin]
  by_cases hnil : body = []
  · have hspaces : ∀ u ∈ [lineFeed, lineFeed], isSpace u := all_eq_true.1 (by decide)
    have hsplit : titleLine block ++ lineFeed :: (kindLine block ++ lineFeed :: lineFeed :: []) =
        headed block [] ++ [lineFeed, lineFeed] := by
      simp [headed, footer]
    rw [hnil, hsplit, trim_append_spaces _ hspaces, h.trim_headed rfl]
  · have hheaded := h.trim_headed hbody
    rwa [headed, footer, if_neg hnil] at hheaded ⊢

theorem MeetingBlock.IsNormal.splitLines_headed (h : block.IsNormal) (body : JsString) :
    splitLines (headed block body) =
      splitLines (titleLine block) ++ kindLine block :: footerLines body := by
  rw [headed, splitLines_append (ne_carriageReturn h.getLast?_titleLine), footer, footerLines]
  split
  · rw [append_nil, splitLines_self h.lineFeed_not_mem_kindLine]
  · rw [splitLines_cons h.lineFeed_not_mem_kindLine (ne_carriageReturn h.getLast?_kindLine),
      splitLines_lineFeed]

/-! ## The text without its header -/

theorem visible_footerLines (body : JsString) :
    ((footerLines body).map visible).sum = visible body := by
  rw [footerLines]
  split
  · next hnil => rw [hnil]; rfl
  · rw [map_cons, sum_cons, visible_splitLines]
    exact Nat.zero_add _

theorem MeetingBlock.IsNormal.kindLine_not_blank (h : block.IsNormal) :
    ¬ decide ((kindLine block).trim = []) := by
  rw [h.kindLine_trim]
  simp [kindLine_ne_nil]

theorem visible_kindLine (block : MeetingBlock) : 0 < visible (kindLine block) := by
  have hstar : (0x2A : UInt16) ∈ kindLine block := mem_append_left _ (by decide)
  exact visible_pos hstar (by decide)

/-- Blank lines are skipped up to the first line that is not blank. -/
theorem dropWhile_suffix_of_not {α : Type*} {p : α → Bool} {a : α} (h : ¬ p a)
    (front back : List α) : a :: back <:+ (front ++ a :: back).dropWhile p := by
  induction front with
  | nil =>
    have hlead : (a :: back).dropWhile p = a :: back := dropWhile_cons_of_neg h
    simpa only [nil_append, hlead] using suffix_refl (a :: back)
  | cons b front ih =>
    rw [cons_append, dropWhile_cons]
    split
    · exact ih
    · exact (suffix_append front _).trans (suffix_cons b _)

theorem MeetingBlock.IsNormal.kindLine_remains (h : block.IsNormal)
    (htitle : lineFeed ∈ block.title) (body : JsString) :
    visible body < visible (trim (joinLines (bodyLines (splitLines (headed block body))))) := by
  have hlong : 1 < (splitLines (titleLine block)).length :=
    one_lt_length_splitLines (mem_append_right _ htitle)
  have hle : headerLength (splitLines (headed block body)) ≤
      (splitLines (titleLine block)).length :=
    (headerLength_le _).trans hlong
  have hsuffix : kindLine block :: footerLines body <:+
      bodyLines (splitLines (headed block body)) := by
    rw [bodyLines]
    generalize headerLength (splitLines (headed block body)) = n at hle ⊢
    rw [h.splitLines_headed, drop_append_of_le_length hle]
    exact dropWhile_suffix_of_not (p := fun line => decide (trim line = []))
      h.kindLine_not_blank _ _
  obtain ⟨front, hfront⟩ := hsuffix
  have hkind := visible_kindLine block
  rw [visible_trim, visible_joinLines, ← hfront, map_append, sum_append, map_cons,
    sum_cons, visible_footerLines]
  omega

/-- A body that begins as a header does loses its first line. -/
theorem visible_strip_lt {body : JsString} (h : meetingBlockMetadataPrefix <+: body) :
    visible (trim (joinLines (bodyLines (splitLines body)))) < visible body := by
  obtain ⟨rest, rfl⟩ := h
  obtain ⟨line, lines, hlines⟩ := head?_splitLines singleLine_metadataPrefix rest
  have hfirst : 0 < visible (meetingBlockMetadataPrefix ++ line) :=
    visible_pos (mem_append_left line (by decide : (0x2A : UInt16) ∈ _)) (by decide)
  have htotal := visible_splitLines (meetingBlockMetadataPrefix ++ rest)
  have hsuffix : bodyLines (splitLines (meetingBlockMetadataPrefix ++ rest)) <:+ lines := by
    rw [bodyLines, hlines]
    refine (dropWhile_suffix _).trans ?_
    obtain ⟨n, hn⟩ := Nat.exists_eq_succ_of_ne_zero (headerLength_pos
      ((meetingBlockMetadataPrefix ++ line) :: lines)).ne'
    rw [hn]
    exact drop_suffix n lines
  obtain ⟨front, hfront⟩ := hsuffix
  rw [hlines, map_cons, sum_cons, ← hfront, map_append, sum_append] at htotal
  rw [visible_trim, visible_joinLines]
  omega

theorem first_line_not_blank (hbody : body.trim = body) (hne : body ≠ []) :
    ∃ line lines, splitLines body = line :: lines ∧ trim line ≠ [] := by
  obtain ⟨u, rest, rfl⟩ := exists_cons_of_ne_nil hne
  have hu : ¬ isSpace u := head?_trim u (by rw [hbody]; rfl)
  have hsingle : ∀ v ∈ [u], v ≠ lineFeed ∧ v ≠ carriageReturn := by
    intro v hv
    rw [mem_singleton.1 hv]
    constructor <;> rintro rfl <;> exact hu rfl
  obtain ⟨line, lines, hlines⟩ := head?_splitLines hsingle rest
  exact ⟨u :: line, lines, hlines, fun hblank => hu (trim_eq_nil.1 hblank u (.head _))⟩

theorem MeetingBlock.IsNormal.strip_headed (h : block.IsNormal) (htitle : lineFeed ∉ block.title)
    (hlines : UsesLineFeeds body) (hbody : body.trim = body) :
    trim (joinLines (bodyLines (splitLines (headed block body)))) = body := by
  have hone : lineFeed ∉ titleLine block := by
    intro hmem
    rcases mem_append.1 hmem with hhead | hrest
    · exact absurd hhead (by decide)
    · exact htitle hrest
  have htwo : headerLength (titleLine block :: kindLine block :: footerLines body) = 2 := by
    refine if_pos ⟨kindLine block, rfl, ?_⟩
    rw [h.kindLine_trim, kindLine, append_assoc]
    exact prefix_append _ _
  have hdrop : bodyLines (splitLines (headed block body)) =
      (footerLines body).dropWhile fun line => line.trim = [] := by
    rw [h.splitLines_headed, splitLines_self hone, singleton_append, bodyLines, htwo]
    rfl
  rw [hdrop, footerLines]
  split
  · next hnil => rw [hnil]; rfl
  · next hne =>
    -- the body is trimmed, and so its first line is not blank
    obtain ⟨line, lines, hsplit, hfirst⟩ := first_line_not_blank hbody hne
    have hkeep : ([] :: splitLines body).dropWhile (fun line => decide (trim line = [])) =
        splitLines body := by
      rw [hsplit, dropWhile_cons_of_pos rfl, dropWhile_cons_of_neg (by rwa [decide_eq_true_eq])]
    rw [hkeep, joinLines_splitLines hlines, hbody]

/-- **The body of an insight comes back without its header** exactly if the title of the block is
one line and the body does not begin as a header does. -/
theorem stripMeetingBlockContext_prepend_iff {value : JsValue} {block : MeetingBlock}
    {bodyMd : JsString} (hblock : block ∈ (normalizeMeetingBlocks value).blocks)
    (hbody : UsesLineFeeds bodyMd) :
    stripMeetingBlockContext (some (prependMeetingBlockContext bodyMd (some block))) = bodyMd.trim ↔
      lineFeed ∉ block.title ∧ ¬ meetingBlockMetadataPrefix <+: bodyMd.trim := by
  have hnormal := normalizeMeetingBlocks_isNormal block hblock
  by_cases hstarts : meetingBlockMetadataPrefix <+: bodyMd.trim
  · have hlost := visible_strip_lt hstarts
    simp only [prependMeetingBlockContext, stripMeetingBlockContext, if_pos hstarts,
      Option.getD_some, trim_trim]
    refine ⟨fun hsame => ?_, fun hcond => absurd hstarts hcond.2⟩
    rw [hsame] at hlost
    exact absurd hlost (lt_irrefl _)
  · have hheader : meetingBlockMetadataPrefix <+: headed block bodyMd.trim := by
      rw [headed_eq]
      exact prefix_append _ _
    simp only [prependMeetingBlockContext, stripMeetingBlockContext, if_neg hstarts,
      Option.getD_some, hnormal.trim_prepend (trim_trim bodyMd), if_pos hheader]
    constructor
    · intro hsame
      refine ⟨fun htitle => ?_, hstarts⟩
      have hmore := hnormal.kindLine_remains htitle bodyMd.trim
      rw [hsame] at hmore
      exact absurd hmore (lt_irrefl _)
    · rintro ⟨htitle, _⟩
      exact hnormal.strip_headed htitle hbody.trim (trim_trim bodyMd)

def titledItem (title : String) : JsValue := .array [numberedItem 1 title]

/-- The block of an item with a title. -/
def titledBlock (title : String) : MeetingBlock :=
  ⟨1, lit title, lit "custom", lit "The team talked.", none, []⟩

theorem stripMeetingBlockContext_prepend_iff_budget :
    stripMeetingBlockContext (some (prependMeetingBlockContext (lit "Agreed. ")
        (some (titledBlock "Budget")))) = (lit "Agreed. ").trim ↔
      lineFeed ∉ (titledBlock "Budget").title ∧
        ¬ meetingBlockMetadataPrefix <+: (lit "Agreed. ").trim :=
  @stripMeetingBlockContext_prepend_iff (titledItem "Budget") (titledBlock "Budget")
    (lit "Agreed. ") (by decide +kernel) (by decide +kernel)

/-- A title of two lines leaves its second line and the line of the kind in the body. -/
theorem stripMeetingBlockContext_counterexample :
    ¬ ∀ (value : JsValue) (block : MeetingBlock) (bodyMd : JsString),
      block ∈ (normalizeMeetingBlocks value).blocks →
      ¬ meetingBlockMetadataPrefix <+: bodyMd → UsesLineFeeds bodyMd →
      stripMeetingBlockContext (some (prependMeetingBlockContext bodyMd (some block))) =
        bodyMd.trim := by
  intro h
  have hsame := h (titledItem "Budget\nreview") (titledBlock "Budget\nreview") (lit "Agreed.")
    (by decide +kernel) (by decide +kernel) (by decide +kernel)
  exact absurd hsame (by decide +kernel)

end Corgtex.Domain.MeetingBlocks
