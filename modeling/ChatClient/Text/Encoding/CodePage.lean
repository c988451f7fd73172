import ChatClient.Text.Encoding.CodeTable

/-!
# Code pages

Encodings in which every byte is a character: the lower half is ASCII, the upper half a page of 128.
In the rows of a page an equals sign stands for the character that has the byte as its code point.
-/

namespace ChatClient.Encoding

/-- Code page 866. -/
def codePage866 : CodeTable where
  width := 32
  rows := #[
    "АБВГДЕЖЗИЙКЛМНОПРСТУФХЦЧШЩЪЫЬЭЮЯ", "абвгдежзийклмноп░▒▓│┤╡╢╖╕╣║╗╝╜╛┐",
    "└┴┬├─┼╞╟╚╔╩╦╠═╬╧╨╤╥╙╘╒╓╫╪┘┌█▄▌▐▀", "рстуфхцчшщъыьэюяЁёЄєЇїЎў°∙·√№¤■\u00a0"]

/-- ISO 8859-2. -/
def iso8859_2 : CodeTable where
  width := 32
  rows := #[
    "================================", "=Ą˘Ł=ĽŚ==ŠŞŤŹ=ŽŻ=ą˛ł=ľśˇ=šşťź˝žż",
    "Ŕ==Ă=ĹĆ=Č=Ę=Ě==ĎĐŃŇ==Ő==ŘŮ=Ű==Ţ=", "ŕ==ă=ĺć=č=ę=ě==ďđńň==ő==řů=ű==ţ˙"]

/-- ISO 8859-3. -/
def iso8859_3 : CodeTable where
  width := 32
  rows := #[
    "================================", "=Ħ˘==.Ĥ==İŞĞĴ=.Ż=ħ====ĥ==ışğĵ=.ż",
    "===.=ĊĈ=========.====Ġ==Ĝ====ŬŜ=", "===.=ċĉ=========.====ġ==ĝ====ŭŝ˙"]

/-- ISO 8859-4. -/
def iso8859_4 : CodeTable where
  width := 32
  rows := #[
    "================================", "=ĄĸŖ=ĨĻ==ŠĒĢŦ=Ž==ą˛ŗ=ĩļˇ=šēģŧŊžŋ",
    "Ā======ĮČ=Ę=Ė==ĪĐŅŌĶ=====Ų===ŨŪ=", "ā======įč=ę=ė==īđņōķ=====ų===ũū˙"]

/-- ISO 8859-5. -/
def iso8859_5 : CodeTable where
  width := 32
  rows := #[
    "================================", "=ЁЂЃЄЅІЇЈЉЊЋЌ=ЎЏАБВГДЕЖЗИЙКЛМНОП",
    "РСТУФХЦЧШЩЪЫЬЭЮЯабвгдежзийклмноп", "рстуфхцчшщъыьэюя№ёђѓєѕіїјљњћќ§ўџ"]

/-- ISO 8859-6. -/
def iso8859_6 : CodeTable where
  width := 32
  rows := #[
    "================================", "=...=.......،=.............؛...؟",
    ".ءآأؤإئابةتثجحخدذرزسشصضطظعغ.....", "ـفقكلمنهوىيًٌٍَُِّْ............."]

/-- ISO 8859-7. -/
def iso8859_7 : CodeTable where
  width := 32
  rows := #[
    "================================", "=‘’=€₯====ͺ===.―====΄΅Ά=ΈΉΊ=Ό=ΎΏ",
    "ΐΑΒΓΔΕΖΗΘΙΚΛΜΝΞΟΠΡ.ΣΤΥΦΧΨΩΪΫάέήί", "ΰαβγδεζηθικλμνξοπρςστυφχψωϊϋόύώ."]

/-- ISO 8859-8. -/
def iso8859_8 : CodeTable where
  width := 32
  rows := #[
    "================================", "=.========×===============÷====.",
    "...............................‗", "אבגדהוזחטיךכלםמןנסעףפץצקרשת..\u200e\u200f."]

/-- ISO 8859-10. -/
def iso8859_10 : CodeTable where
  width := 32
  rows := #[
    "================================", "=ĄĒĢĪĨĶ=ĻĐŠŦŽ=ŪŊ=ąēģīĩķ=ļđšŧž―ūŋ",
    "Ā======ĮČ=Ę=Ė====ŅŌ====Ũ=Ų======", "ā======įč=ę=ė====ņō====ũ=ų=====ĸ"]

/-- ISO 8859-13. -/
def iso8859_13 : CodeTable where
  width := 32
  rows := #[
    "================================", "=”===„==Ø=Ŗ====Æ====“===ø=ŗ====æ",
    "ĄĮĀĆ==ĘĒČ=ŹĖĢĶĪĻŠŃŅ=Ō===ŲŁŚŪ=ŻŽ=", "ąįāć==ęēč=źėģķīļšńņ=ō===ųłśū=żž’"]

/-- ISO 8859-14. -/
def iso8859_14 : CodeTable where
  width := 32
  rows := #[
    "================================", "=Ḃḃ=ĊċḊ=Ẁ=ẂḋỲ==ŸḞḟĠġṀṁ=ṖẁṗẃṠỳẄẅṡ",
    "================Ŵ======Ṫ======Ŷ=", "================ŵ======ṫ======ŷ="]

/-- ISO 8859-15. -/
def iso8859_15 : CodeTable where
  width := 32
  rows := #[
    "================================", "====€=Š=š===========Ž===ž===ŒœŸ=",
    "================================", "================================"]

/-- ISO 8859-16. -/
def iso8859_16 : CodeTable where
  width := 32
  rows := #[
    "================================", "=ĄąŁ€„Š=š=Ș=Ź=źŻ==ČłŽ”==žčș=ŒœŸż",
    "===Ă=Ć==========ĐŃ===Ő=ŚŰ====ĘȚ=", "===ă=ć==========đń===ő=śű====ęț="]

/-- KOI8-R. -/
def koi8r : CodeTable where
  width := 32
  rows := #[
    "─│┌┐└┘├┤┬┴┼▀▄█▌▐░▒▓⌠■∙√≈≤≥\u00a0⌡°²·÷", "═║╒ё╓╔╕╖╗╘╙╚╛╜╝╞╟╠╡Ё╢╣╤╥╦╧╨╩╪╫╬©",
    "юабцдефгхийклмнопярстужвьызшэщчъ", "ЮАБЦДЕФГХИЙКЛМНОПЯРСТУЖВЬЫЗШЭЩЧЪ"]

/-- KOI8-U. -/
def koi8u : CodeTable where
  width := 32
  rows := #[
    "─│┌┐└┘├┤┬┴┼▀▄█▌▐░▒▓⌠■∙√≈≤≥\u00a0⌡°²·÷", "═║╒ёє╔ії╗╘╙╚╛ґў╞╟╠╡ЁЄ╣ІЇ╦╧╨╩╪ҐЎ©",
    "юабцдефгхийклмнопярстужвьызшэщчъ", "ЮАБЦДЕФГХИЙКЛМНОПЯРСТУЖВЬЫЗШЭЩЧЪ"]

/-- Macintosh, Roman. -/
def macintosh : CodeTable where
  width := 32
  rows := #[
    "ÄÅÇÉÑÖÜáàâäãåçéèêëíìîïñóòôöõúùûü", "†°==§•¶ß®=™´¨≠ÆØ∞=≤≥¥=∂∑∏π∫ªºΩæø",
    "¿¡¬√ƒ≈∆«»…\u00a0ÀÃÕŒœ–—“”‘’÷◊ÿŸ⁄€‹›ﬁﬂ", "‡·‚„‰ÂÊÁËÈÍÎÏÌÓÔ\uf8ffÒÚÛÙıˆ˜¯˘˙˚¸˝˛ˇ"]

/-- Macintosh, Cyrillic. -/
def macCyrillic : CodeTable where
  width := 32
  rows := #[
    "АБВГДЕЖЗИЙКЛМНОПРСТУФХЦЧШЩЪЫЬЭЮЯ", "†°Ґ=§•¶І®=™Ђђ≠Ѓѓ∞=≤≥і=ґЈЄєЇїЉљЊњ",
    "јЅ¬√ƒ≈∆«»…\u00a0ЋћЌќѕ–—“”‘’÷„ЎўЏџ№Ёёя", "абвгдежзийклмнопрстуфхцчшщъыьэю€"]

/-- Windows code page 874. -/
def windows874 : CodeTable where
  width := 32
  rows := #[
    "€====…===========‘’“”•–—========", "=กขฃคฅฆงจฉชซฌญฎฏฐฑฒณดตถทธนบปผฝพฟ",
    "ภมยรฤลฦวศษสหฬอฮฯะัาำิีึืฺุู....฿", "เแโใไๅๆ็่้๊๋์ํ๎๏๐๑๒๓๔๕๖๗๘๙๚๛...."]

/-- Windows code page 1250. -/
def windows1250 : CodeTable where
  width := 32
  rows := #[
    "€=‚=„…†‡=‰Š‹ŚŤŽŹ=‘’“”•–—=™š›śťžź", "=ˇ˘Ł=Ą====Ş====Ż==˛ł=====ąş=Ľ˝ľż",
    "Ŕ==Ă=ĹĆ=Č=Ę=Ě==ĎĐŃŇ==Ő==ŘŮ=Ű==Ţ=", "ŕ==ă=ĺć=č=ę=ě==ďđńň==ő==řů=ű==ţ˙"]

/-- Windows code page 1251. -/
def windows1251 : CodeTable where
  width := 32
  rows := #[
    "ЂЃ‚ѓ„…†‡€‰Љ‹ЊЌЋЏђ‘’“”•–—=™љ›њќћџ", "=ЎўЈ=Ґ==Ё=Є====Ї==Ііґ===ё№є=јЅѕї",
    "АБВГДЕЖЗИЙКЛМНОПРСТУФХЦЧШЩЪЫЬЭЮЯ", "абвгдежзийклмнопрстуфхцчшщъыьэюя"]

/-- Windows code page 1252. -/
def windows1252 : CodeTable where
  width := 32
  rows := #[
    "€=‚ƒ„…†‡ˆ‰Š‹Œ=Ž==‘’“”•–—˜™š›œ=žŸ", "================================",
    "================================", "================================"]

/-- Windows code page 1253. -/
def windows1253 : CodeTable where
  width := 32
  rows := #[
    "€=‚ƒ„…†‡=‰=‹=====‘’“”•–—=™=›====", "=΅Ά=======.====―====΄===ΈΉΊ=Ό=ΎΏ",
    "ΐΑΒΓΔΕΖΗΘΙΚΛΜΝΞΟΠΡ.ΣΤΥΦΧΨΩΪΫάέήί", "ΰαβγδεζηθικλμνξοπρςστυφχψωϊϋόύώ."]

/-- Windows code page 1254. -/
def windows1254 : CodeTable where
  width := 32
  rows := #[
    "€=‚ƒ„…†‡ˆ‰Š‹Œ====‘’“”•–—˜™š›œ==Ÿ", "================================",
    "================Ğ============İŞ=", "================ğ============ış="]

/-- Windows code page 1255. -/
def windows1255 : CodeTable where
  width := 32
  rows := #[
    "€=‚ƒ„…†‡ˆ‰=‹=====‘’“”•–—˜™=›====", "====₪=====×===============÷=====",
    "ְֱֲֳִֵֶַָֹֺֻּֽ־ֿ׀ׁׂ׃װױײ׳״.......", "אבגדהוזחטיךכלםמןנסעףפץצקרשת..\u200e\u200f."]

/-- Windows code page 1256. -/
def windows1256 : CodeTable where
  width := 32
  rows := #[
    "€پ‚ƒ„…†‡ˆ‰ٹ‹Œچژڈگ‘’“”•–—ک™ڑ›œ\u200c\u200dں", "=،========ھ===============؛====؟",
    "ہءآأؤإئابةتثجحخدذرزسشصض=طظعغـفقك", "=ل=منهو=====ىي==ًٌٍَ=ُِ=ّ=ْ==\u200e\u200fے"]

/-- Windows code page 1257. -/
def windows1257 : CodeTable where
  width := 32
  rows := #[
    "€=‚=„…†‡=‰=‹=¨ˇ¸=‘’“”•–—=™=›=¯˛=", "=.===.==Ø=Ŗ====Æ========ø=ŗ====æ",
    "ĄĮĀĆ==ĘĒČ=ŹĖĢĶĪĻŠŃŅ=Ō===ŲŁŚŪ=ŻŽ=", "ąįāć==ęēč=źėģķīļšńņ=ō===ųłśū=żž˙"]

/-- Windows code page 1258. -/
def windows1258 : CodeTable where
  width := 32
  rows := #[
    "€=‚ƒ„…†‡ˆ‰=‹Œ====‘’“”•–—˜™=›œ==Ÿ", "================================",
    "===Ă========̀===Đ=̉==Ơ=======Ữ=", "===ă========́===đ=̣==ơ=======ư₫="]

/-- The character of a byte, if it has one. -/
def CodeTable.ofByte? (page : CodeTable) (b : UInt8) : Option Char :=
  if b < 0x80 then some (Char.ofNat b.toNat)
  else (page.get? (b.toNat - 0x80)).map fun c => if c = '=' then Char.ofNat b.toNat else c

end ChatClient.Encoding
