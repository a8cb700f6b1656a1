import TextTemplate.Filter.Arithmetic
import TextTemplate.Filter.Collection
import TextTemplate.Filter.Text

/-!
The filters that a template has without further ado.
-/

namespace TextTemplate.FilterTable

/-- The standard filters. -/
def standard : FilterTable :=
  Table.ofList [
    ("append", Filter.append),
    ("prepend", Filter.prepend),
    ("upcase", Filter.upcase),
    ("downcase", Filter.downcase),
    ("capitalize", Filter.capitalize),
    ("strip", Filter.strip),
    ("size", Filter.size),
    ("first", Filter.first),
    ("last", Filter.last),
    ("join", Filter.join),
    ("reverse", Filter.reverse),
    ("plus", Filter.plus),
    ("minus", Filter.minus),
    ("times", Filter.times),
    ("default", Filter.default),
    ("replace", Filter.replace)]

end TextTemplate.FilterTable
