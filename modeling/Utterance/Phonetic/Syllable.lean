/-!
# Syllables of kana

The phones of every katakana that stands alone, and of the pairs that are said as one syllable.
-/

namespace Utterance.Phonetic
set_option autoImplicit false

/-- Pairs of kana that are one syllable. -/
def digraphs : List ((Char × Char) × List String) :=
  [(('キ', 'ャ'), ["ky", "a"]), (('キ', 'ュ'), ["ky", "u"]), (('キ', 'ョ'), ["ky", "o"]), (('キ', 'ェ'), ["ky", "e"]),
   (('シ', 'ャ'), ["sh", "a"]), (('シ', 'ュ'), ["sh", "u"]), (('シ', 'ョ'), ["sh", "o"]), (('シ', 'ェ'), ["sh", "e"]),
   (('チ', 'ャ'), ["ch", "a"]), (('チ', 'ュ'), ["ch", "u"]), (('チ', 'ョ'), ["ch", "o"]), (('チ', 'ェ'), ["ch", "e"]),
   (('ニ', 'ャ'), ["ny", "a"]), (('ニ', 'ュ'), ["ny", "u"]), (('ニ', 'ョ'), ["ny", "o"]), (('ニ', 'ェ'), ["ny", "e"]),
   (('ヒ', 'ャ'), ["hy", "a"]), (('ヒ', 'ュ'), ["hy", "u"]), (('ヒ', 'ョ'), ["hy", "o"]), (('ヒ', 'ェ'), ["hy", "e"]),
   (('ミ', 'ャ'), ["my", "a"]), (('ミ', 'ュ'), ["my", "u"]), (('ミ', 'ョ'), ["my", "o"]), (('ミ', 'ェ'), ["my", "e"]),
   (('リ', 'ャ'), ["ry", "a"]), (('リ', 'ュ'), ["ry", "u"]), (('リ', 'ョ'), ["ry", "o"]), (('リ', 'ェ'), ["ry", "e"]),
   (('ギ', 'ャ'), ["gy", "a"]), (('ギ', 'ュ'), ["gy", "u"]), (('ギ', 'ョ'), ["gy", "o"]), (('ギ', 'ェ'), ["gy", "e"]),
   (('ジ', 'ャ'), ["j", "a"]), (('ジ', 'ュ'), ["j", "u"]), (('ジ', 'ョ'), ["j", "o"]), (('ジ', 'ェ'), ["j", "e"]),
   (('ヂ', 'ャ'), ["j", "a"]), (('ヂ', 'ュ'), ["j", "u"]), (('ヂ', 'ョ'), ["j", "o"]),
   (('ビ', 'ャ'), ["by", "a"]), (('ビ', 'ュ'), ["by", "u"]), (('ビ', 'ョ'), ["by", "o"]), (('ビ', 'ェ'), ["by", "e"]),
   (('ピ', 'ャ'), ["py", "a"]), (('ピ', 'ュ'), ["py", "u"]), (('ピ', 'ョ'), ["py", "o"]), (('ピ', 'ェ'), ["py", "e"]),
   (('フ', 'ァ'), ["f", "a"]), (('フ', 'ィ'), ["f", "i"]), (('フ', 'ェ'), ["f", "e"]), (('フ', 'ォ'), ["f", "o"]),
   (('フ', 'ュ'), ["hy", "u"]),
   (('テ', 'ィ'), ["t", "i"]), (('ト', 'ゥ'), ["t", "u"]), (('テ', 'ュ'), ["ty", "u"]),
   (('デ', 'ィ'), ["d", "i"]), (('ド', 'ゥ'), ["d", "u"]), (('デ', 'ュ'), ["dy", "u"]),
   (('ウ', 'ィ'), ["w", "i"]), (('ウ', 'ェ'), ["w", "e"]), (('ウ', 'ォ'), ["w", "o"]),
   (('ヴ', 'ァ'), ["b", "a"]), (('ヴ', 'ィ'), ["b", "i"]), (('ヴ', 'ェ'), ["b", "e"]), (('ヴ', 'ォ'), ["b", "o"]),
   (('ヴ', 'ュ'), ["by", "u"]),
   (('ツ', 'ァ'), ["ts", "a"]), (('ツ', 'ィ'), ["ts", "i"]), (('ツ', 'ェ'), ["ts", "e"]), (('ツ', 'ォ'), ["ts", "o"]),
   (('ス', 'ィ'), ["s", "i"]), (('ズ', 'ィ'), ["z", "i"]),
   (('ク', 'ァ'), ["k", "a"]), (('グ', 'ァ'), ["g", "a"])]

/-- Single kana; the geminate sign is `q` and the moraic nasal is `N`. -/
def monographs : List (Char × List String) :=
  [('ア', ["a"]), ('イ', ["i"]), ('ウ', ["u"]), ('エ', ["e"]), ('オ', ["o"]),
   ('カ', ["k", "a"]), ('キ', ["k", "i"]), ('ク', ["k", "u"]), ('ケ', ["k", "e"]), ('コ', ["k", "o"]),
   ('サ', ["s", "a"]), ('シ', ["sh", "i"]), ('ス', ["s", "u"]), ('セ', ["s", "e"]), ('ソ', ["s", "o"]),
   ('タ', ["t", "a"]), ('チ', ["ch", "i"]), ('ツ', ["ts", "u"]), ('テ', ["t", "e"]), ('ト', ["t", "o"]),
   ('ナ', ["n", "a"]), ('ニ', ["n", "i"]), ('ヌ', ["n", "u"]), ('ネ', ["n", "e"]), ('ノ', ["n", "o"]),
   ('ハ', ["h", "a"]), ('ヒ', ["h", "i"]), ('フ', ["f", "u"]), ('ヘ', ["h", "e"]), ('ホ', ["h", "o"]),
   ('マ', ["m", "a"]), ('ミ', ["m", "i"]), ('ム', ["m", "u"]), ('メ', ["m", "e"]), ('モ', ["m", "o"]),
   ('ヤ', ["y", "a"]), ('ユ', ["y", "u"]), ('ヨ', ["y", "o"]),
   ('ラ', ["r", "a"]), ('リ', ["r", "i"]), ('ル', ["r", "u"]), ('レ', ["r", "e"]), ('ロ', ["r", "o"]),
   ('ワ', ["w", "a"]), ('ヰ', ["i"]), ('ヱ', ["e"]), ('ヲ', ["o"]), ('ン', ["N"]),
   ('ガ', ["g", "a"]), ('ギ', ["g", "i"]), ('グ', ["g", "u"]), ('ゲ', ["g", "e"]), ('ゴ', ["g", "o"]),
   ('ザ', ["z", "a"]), ('ジ', ["j", "i"]), ('ズ', ["z", "u"]), ('ゼ', ["z", "e"]), ('ゾ', ["z", "o"]),
   ('ダ', ["d", "a"]), ('ヂ', ["j", "i"]), ('ヅ', ["z", "u"]), ('デ', ["d", "e"]), ('ド', ["d", "o"]),
   ('バ', ["b", "a"]), ('ビ', ["b", "i"]), ('ブ', ["b", "u"]), ('ベ', ["b", "e"]), ('ボ', ["b", "o"]),
   ('パ', ["p", "a"]), ('ピ', ["p", "i"]), ('プ', ["p", "u"]), ('ペ', ["p", "e"]), ('ポ', ["p", "o"]),
   ('ヴ', ["b", "u"]),
   ('ァ', ["a"]), ('ィ', ["i"]), ('ゥ', ["u"]), ('ェ', ["e"]), ('ォ', ["o"]),
   ('ャ', ["y", "a"]), ('ュ', ["y", "u"]), ('ョ', ["y", "o"]), ('ヮ', ["w", "a"]),
   ('ッ', ["q"])]

/-- The phones of a pair that is one syllable. -/
def digraph? (first second : Char) : Option (List String) :=
  digraphs.lookup (first, second)

/-- The phones of a single kana. -/
def monograph? (kana : Char) : Option (List String) :=
  monographs.lookup kana

end Utterance.Phonetic
