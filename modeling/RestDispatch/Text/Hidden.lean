import RestDispatch.Text.Addition

/-!
# Characters without a picture of their own

The code points that a quoted text writes by number: controls, formats, private and
unassigned code points, separators and blanks other than the space, the marks that extend
the character in front of them, and fillers, which may be ignored where they are not
supported.  Characters of the latest edition are shown.
-/

namespace RestDispatch.Text.CharRanges

/-- The code points without a picture of their own. -/
def hidden : CharRanges :=
  (inCategories ["Cc", "Cf", "Cs", "Co", "Cn", "Zl", "Zp", "Zs"] ∪ graphemeExtend ∪
      defaultIgnorable) \
    (.interval 0x20 0x20 ∪ addedVisible)

end RestDispatch.Text.CharRanges
