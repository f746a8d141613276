import SchemaAudit.Text.ByteSet

/-!
Character sets with one byte to a character, in the order of their names. The bytes before `first` stand
for the code points of the same number; a byte without a character has U+FFFD in its place.
-/

namespace SchemaAudit.Text

/-- The character sets with one byte to a character. -/
def byteSets : List ByteSet := [
  { name := "cp037"
    aliases := [
      "037", "csibm037", "ebcdic_cp_ca", "ebcdic_cp_nl", "ebcdic_cp_us", "ebcdic_cp_wt", "ibm037",
      "ibm039"]
    first := 0x00
    chars :=
      "\u0000\u0001\u0002\u0003\u009c\u0009\u0086\u007f\u0097\u008d\u008e\u000b\u000c\u000d" ++
      "\u000e\u000f\u0010\u0011\u0012\u0013\u009d\u0085\u0008\u0087\u0018\u0019\u0092\u008f" ++
      "\u001c\u001d\u001e\u001f\u0080\u0081\u0082\u0083\u0084\u000a\u0017\u001b\u0088\u0089" ++
      "\u008a\u008b\u008c\u0005\u0006\u0007\u0090\u0091\u0016\u0093\u0094\u0095\u0096\u0004" ++
      "\u0098\u0099\u009a\u009b\u0014\u0015\u009e\u001a \u00a0âäàáãåçñ¢.<(+|&éêëèíîïìß!$*);¬-/Â" ++
      "ÄÀÁÃÅÇÑ¦,%_>?øÉÊËÈÍÎÏÌ`:#@'=\x22Øabcdefghi«»ðýþ±°jklmnopqrªºæ\u00b8Æ¤\u00b5~stuvwxyz¡¿ÐÝ" ++
      "Þ®^£¥·©§¶¼½¾[]\u00af\u00a8\u00b4×\x7bABCDEFGHI\u00adôöòóõ\x7dJKLMNOPQR¹ûüùúÿ\x5c÷STUVWXY" ++
      "Z²ÔÖÒÓÕ0123456789³ÛÜÙÚ\u009f" },
  { name := "cp1006"
    aliases := []
    first := 0xa0
    chars :=
      "\u00a0۰۱۲۳۴۵۶۷۸۹،\u061b\u00ad\u061f\ufe81\ufe8d\ufe8e\ufe8e\ufe8f\ufe91\ufb56\ufb58" ++
      "\ufe93\ufe95\ufe97\ufb66\ufb68\ufe99\ufe9b\ufe9d\ufe9f\ufb7a\ufb7c\ufea1\ufea3\ufea5" ++
      "\ufea7\ufea9\ufb84\ufeab\ufead\ufb8c\ufeaf\ufb8a\ufeb1\ufeb3\ufeb5\ufeb7\ufeb9\ufebb" ++
      "\ufebd\ufebf\ufec1\ufec5\ufec9\ufeca\ufecb\ufecc\ufecd\ufece\ufecf\ufed0\ufed1\ufed3" ++
      "\ufed5\ufed7\ufed9\ufedb\ufb92\ufb94\ufedd\ufedf\ufee0\ufee1\ufee3\ufb9e\ufee5\ufee7" ++
      "\ufe85\ufeed\ufba6\ufba8\ufba9\ufbaa\ufe80\ufe89\ufe8a\ufe8b\ufef1\ufef2\ufef3\ufbb0" ++
      "\ufbae\ufe7c\ufe7d" },
  { name := "cp1026"
    aliases := ["1026", "csibm1026", "ibm1026"]
    first := 0x00
    chars :=
      "\u0000\u0001\u0002\u0003\u009c\u0009\u0086\u007f\u0097\u008d\u008e\u000b\u000c\u000d" ++
      "\u000e\u000f\u0010\u0011\u0012\u0013\u009d\u0085\u0008\u0087\u0018\u0019\u0092\u008f" ++
      "\u001c\u001d\u001e\u001f\u0080\u0081\u0082\u0083\u0084\u000a\u0017\u001b\u0088\u0089" ++
      "\u008a\u008b\u008c\u0005\u0006\u0007\u0090\u0091\u0016\u0093\u0094\u0095\u0096\u0004" ++
      "\u0098\u0099\u009a\u009b\u0014\u0015\u009e\u001a \u00a0âäàáãå\x7bñÇ.<(+!&éêëèíîïìßĞİ*);^" ++
      "-/ÂÄÀÁÃÅ[Ñş,%_>?øÉÊËÈÍÎÏÌı:ÖŞ'=ÜØabcdefghi«»\x7d`¦±°jklmnopqrªºæ\u00b8Æ¤\u00b5östuvwxyz¡" ++
      "¿]$@®¢£¥·©§¶¼½¾¬|\u00af\u00a8\u00b4×çABCDEFGHI\u00adô~òóõğJKLMNOPQR¹û\x5cùúÿü÷STUVWXYZ²Ô" ++
      "#ÒÓÕ0123456789³Û\x22ÙÚ\u009f" },
  { name := "cp1125"
    aliases := ["1125", "cp866u", "ibm1125", "ruscii"]
    first := 0x80
    chars :=
      "АБВГДЕЖЗИЙКЛМНОПРСТУФХЦЧШЩЪЫЬЭЮЯабвгдежзийклмноп░▒▓│┤╡╢╖╕╣║╗╝╜╛┐└┴┬├─┼╞╟╚╔╩╦╠═╬╧╨╤╥╙╘╒╓╫" ++
      "╪┘┌█▄▌▐▀рстуфхцчшщъыьэюяЁёҐґЄєІіЇї·√\u2116¤■\u00a0" },
  { name := "cp1140"
    aliases := ["1140", "ibm1140"]
    first := 0x00
    chars :=
      "\u0000\u0001\u0002\u0003\u009c\u0009\u0086\u007f\u0097\u008d\u008e\u000b\u000c\u000d" ++
      "\u000e\u000f\u0010\u0011\u0012\u0013\u009d\u0085\u0008\u0087\u0018\u0019\u0092\u008f" ++
      "\u001c\u001d\u001e\u001f\u0080\u0081\u0082\u0083\u0084\u000a\u0017\u001b\u0088\u0089" ++
      "\u008a\u008b\u008c\u0005\u0006\u0007\u0090\u0091\u0016\u0093\u0094\u0095\u0096\u0004" ++
      "\u0098\u0099\u009a\u009b\u0014\u0015\u009e\u001a \u00a0âäàáãåçñ¢.<(+|&éêëèíîïìß!$*);¬-/Â" ++
      "ÄÀÁÃÅÇÑ¦,%_>?øÉÊËÈÍÎÏÌ`:#@'=\x22Øabcdefghi«»ðýþ±°jklmnopqrªºæ\u00b8Æ€\u00b5~stuvwxyz¡¿ÐÝ" ++
      "Þ®^£¥·©§¶¼½¾[]\u00af\u00a8\u00b4×\x7bABCDEFGHI\u00adôöòóõ\x7dJKLMNOPQR¹ûüùúÿ\x5c÷STUVWXY" ++
      "Z²ÔÖÒÓÕ0123456789³ÛÜÙÚ\u009f" },
  { name := "cp1250"
    aliases := ["1250", "windows_1250"]
    first := 0x80
    chars :=
      "€\ufffd‚\ufffd„\u2026†‡\ufffd‰Š‹ŚŤŽŹ\ufffd‘’“”•–—\ufffd™š›śťžź\u00a0\u02c7\u02d8Ł¤Ą¦§" ++
      "\u00a8©Ş«¬\u00ad®Ż°±\u02dbł\u00b4\u00b5¶·\u00b8ąş»Ľ\u02ddľżŔÁÂĂÄĹĆÇČÉĘËĚÍÎĎĐŃŇÓÔŐÖ×ŘŮÚŰÜ" ++
      "ÝŢßŕáâăäĺćçčéęëěíîďđńňóôőö÷řůúűüýţ\u02d9" },
  { name := "cp1251"
    aliases := ["1251", "windows_1251"]
    first := 0x80
    chars :=
      "ЂЃ‚ѓ„\u2026†‡€‰Љ‹ЊЌЋЏђ‘’“”•–—\ufffd™љ›њќћџ\u00a0ЎўЈ¤Ґ¦§Ё©Є«¬\u00ad®Ї°±Ііґ\u00b5¶·ё\u2116" ++
      "є»јЅѕїАБВГДЕЖЗИЙКЛМНОПРСТУФХЦЧШЩЪЫЬЭЮЯабвгдежзийклмнопрстуфхцчшщъыьэюя" },
  { name := "cp1252"
    aliases := ["1252", "windows_1252"]
    first := 0x80
    chars :=
      "€\ufffd‚ƒ„\u2026†‡\u02c6‰Š‹Œ\ufffdŽ\ufffd\ufffd‘’“”•–—\u02dc™š›œ\ufffdžŸ\u00a0¡¢£¤¥¦§" ++
      "\u00a8©ª«¬\u00ad®\u00af°±²³\u00b4\u00b5¶·\u00b8¹º»¼½¾¿ÀÁÂÃÄÅÆÇÈÉÊËÌÍÎÏÐÑÒÓÔÕÖ×ØÙÚÛÜÝÞßàá" ++
      "âãäåæçèéêëìíîïðñòóôõö÷øùúûüýþÿ" },
  { name := "cp1253"
    aliases := ["1253", "windows_1253"]
    first := 0x80
    chars :=
      "€\ufffd‚ƒ„\u2026†‡\ufffd‰\ufffd‹\ufffd\ufffd\ufffd\ufffd\ufffd‘’“”•–—\ufffd™\ufffd›" ++
      "\ufffd\ufffd\ufffd\ufffd\u00a0΅Ά£¤¥¦§\u00a8©\ufffd«¬\u00ad®―°±²³\u0384\u00b5¶·ΈΉΊ»Ό½ΎΏΐΑ" ++
      "ΒΓΔΕΖΗΘΙΚΛΜΝΞΟΠΡ\ufffdΣΤΥΦΧΨΩΪΫάέήίΰαβγδεζηθικλμνξοπρςστυφχψωϊϋόύώ\ufffd" },
  { name := "cp1254"
    aliases := ["1254", "windows_1254"]
    first := 0x80
    chars :=
      "€\ufffd‚ƒ„\u2026†‡\u02c6‰Š‹Œ\ufffd\ufffd\ufffd\ufffd‘’“”•–—\u02dc™š›œ\ufffd\ufffdŸ\u00a0" ++
      "¡¢£¤¥¦§\u00a8©ª«¬\u00ad®\u00af°±²³\u00b4\u00b5¶·\u00b8¹º»¼½¾¿ÀÁÂÃÄÅÆÇÈÉÊËÌÍÎÏĞÑÒÓÔÕÖ×ØÙÚ" ++
      "ÛÜİŞßàáâãäåæçèéêëìíîïğñòóôõö÷øùúûüışÿ" },
  { name := "cp1255"
    aliases := ["1255", "windows_1255"]
    first := 0x80
    chars :=
      "€\ufffd‚ƒ„\u2026†‡\u02c6‰\ufffd‹\ufffd\ufffd\ufffd\ufffd\ufffd‘’“”•–—\u02dc™\ufffd›" ++
      "\ufffd\ufffd\ufffd\ufffd\u00a0¡¢£₪¥¦§\u00a8©×«¬\u00ad®\u00af°±²³\u00b4\u00b5¶·\u00b8¹÷»¼" ++
      "½¾¿\u05b0\u05b1\u05b2\u05b3\u05b4\u05b5\u05b6\u05b7\u05b8\u05b9\ufffd\u05bb\u05bc\u05bd" ++
      "\u05be\u05bf\u05c0\u05c1\u05c2\u05c3\u05f0\u05f1\u05f2\u05f3\u05f4\ufffd\ufffd\ufffd" ++
      "\ufffd\ufffd\ufffd\ufffd\u05d0\u05d1\u05d2\u05d3\u05d4\u05d5\u05d6\u05d7\u05d8\u05d9" ++
      "\u05da\u05db\u05dc\u05dd\u05de\u05df\u05e0\u05e1\u05e2\u05e3\u05e4\u05e5\u05e6\u05e7" ++
      "\u05e8\u05e9\u05ea\ufffd\ufffd\u200e\u200f\ufffd" },
  { name := "cp1256"
    aliases := ["1256", "windows_1256"]
    first := 0x80
    chars :=
      "€\u067e‚ƒ„\u2026†‡\u02c6‰\u0679‹Œ\u0686\u0698\u0688\u06af‘’“”•–—\u06a9™\u0691›œ\u200c" ++
      "\u200d\u06ba\u00a0،¢£¤¥¦§\u00a8©\u06be«¬\u00ad®\u00af°±²³\u00b4\u00b5¶·\u00b8¹\u061b»¼½¾" ++
      "\u061f\u06c1\u0621\u0622\u0623\u0624\u0625\u0626\u0627\u0628\u0629\u062a\u062b\u062c" ++
      "\u062d\u062e\u062f\u0630\u0631\u0632\u0633\u0634\u0635\u0636×\u0637\u0638\u0639\u063a" ++
      "\u0640\u0641\u0642\u0643à\u0644â\u0645\u0646\u0647\u0648çèéêë\u0649\u064aîï\u064b\u064c" ++
      "\u064d\u064eô\u064f\u0650÷\u0651ù\u0652ûü\u200e\u200f\u06d2" },
  { name := "cp1257"
    aliases := ["1257", "windows_1257"]
    first := 0x80
    chars :=
      "€\ufffd‚\ufffd„\u2026†‡\ufffd‰\ufffd‹\ufffd\u00a8\u02c7\u00b8\ufffd‘’“”•–—\ufffd™\ufffd›" ++
      "\ufffd\u00af\u02db\ufffd\u00a0\ufffd¢£¤\ufffd¦§Ø©Ŗ«¬\u00ad®Æ°±²³\u00b4\u00b5¶·ø¹ŗ»¼½¾æĄĮ" ++
      "ĀĆÄÅĘĒČÉŹĖĢĶĪĻŠŃŅÓŌÕÖ×ŲŁŚŪÜŻŽßąįāćäåęēčéźėģķīļšńņóōõö÷ųłśūüżž\u02d9" },
  { name := "cp1258"
    aliases := ["1258", "windows_1258"]
    first := 0x80
    chars :=
      "€\ufffd‚ƒ„\u2026†‡\u02c6‰\ufffd‹Œ\ufffd\ufffd\ufffd\ufffd‘’“”•–—\u02dc™\ufffd›œ\ufffd" ++
      "\ufffdŸ\u00a0¡¢£¤¥¦§\u00a8©ª«¬\u00ad®\u00af°±²³\u00b4\u00b5¶·\u00b8¹º»¼½¾¿ÀÁÂĂÄÅÆÇÈÉÊË" ++
      "\u0300ÍÎÏĐÑ\u0309ÓÔƠÖ×ØÙÚÛÜƯ\u0303ßàáâăäåæçèéêë\u0301íîïđñ\u0323óôơö÷øùúûüư₫ÿ" },
  { name := "cp273"
    aliases := ["273", "csibm273", "ibm273"]
    first := 0x00
    chars :=
      "\u0000\u0001\u0002\u0003\u009c\u0009\u0086\u007f\u0097\u008d\u008e\u000b\u000c\u000d" ++
      "\u000e\u000f\u0010\u0011\u0012\u0013\u009d\u0085\u0008\u0087\u0018\u0019\u0092\u008f" ++
      "\u001c\u001d\u001e\u001f\u0080\u0081\u0082\u0083\u0084\u000a\u0017\u001b\u0088\u0089" ++
      "\u008a\u008b\u008c\u0005\u0006\u0007\u0090\u0091\u0016\u0093\u0094\u0095\u0096\u0004" ++
      "\u0098\u0099\u009a\u009b\u0014\u0015\u009e\u001a \u00a0â\x7bàáãåçñÄ.<(+!&éêëèíîïì~Ü$*);^" ++
      "-/Â[ÀÁÃÅÇÑö,%_>?øÉÊËÈÍÎÏÌ`:#§'=\x22Øabcdefghi«»ðýþ±°jklmnopqrªºæ\u00b8Æ¤\u00b5ßstuvwxyz¡" ++
      "¿ÐÝÞ®¢£¥·©@¶¼½¾¬|\u203e\u00a8\u00b4×äABCDEFGHI\u00adô¦òóõüJKLMNOPQR¹û\x7dùúÿÖ÷STUVWXYZ²Ô" ++
      "\x5cÒÓÕ0123456789³Û]ÙÚ\u009f" },
  { name := "cp424"
    aliases := ["424", "csibm424", "ebcdic_cp_he", "ibm424"]
    first := 0x00
    chars :=
      "\u0000\u0001\u0002\u0003\u009c\u0009\u0086\u007f\u0097\u008d\u008e\u000b\u000c\u000d" ++
      "\u000e\u000f\u0010\u0011\u0012\u0013\u009d\u0085\u0008\u0087\u0018\u0019\u0092\u008f" ++
      "\u001c\u001d\u001e\u001f\u0080\u0081\u0082\u0083\u0084\u000a\u0017\u001b\u0088\u0089" ++
      "\u008a\u008b\u008c\u0005\u0006\u0007\u0090\u0091\u0016\u0093\u0094\u0095\u0096\u0004" ++
      "\u0098\u0099\u009a\u009b\u0014\u0015\u009e\u001a \u05d0\u05d1\u05d2\u05d3\u05d4\u05d5" ++
      "\u05d6\u05d7\u05d8¢.<(+|&\u05d9\u05da\u05db\u05dc\u05dd\u05de\u05df\u05e0\u05e1!$*);¬-/" ++
      "\u05e2\u05e3\u05e4\u05e5\u05e6\u05e7\u05e8\u05e9¦,%_>?\ufffd\u05ea\ufffd\ufffd\u00a0" ++
      "\ufffd\ufffd\ufffd\u2017`:#@'=\x22\ufffdabcdefghi«»\ufffd\ufffd\ufffd±°jklmnopqr\ufffd" ++
      "\ufffd\ufffd\u00b8\ufffd¤\u00b5~stuvwxyz\ufffd\ufffd\ufffd\ufffd\ufffd®^£¥·©§¶¼½¾[]" ++
      "\u00af\u00a8\u00b4×\x7bABCDEFGHI\u00ad\ufffd\ufffd\ufffd\ufffd\ufffd\x7dJKLMNOPQR¹\ufffd" ++
      "\ufffd\ufffd\ufffd\ufffd\x5c÷STUVWXYZ²\ufffd\ufffd\ufffd\ufffd\ufffd0123456789³\ufffd" ++
      "\ufffd\ufffd\ufffd\u009f" },
  { name := "cp437"
    aliases := ["437", "cspc8codepage437", "ibm437"]
    first := 0x80
    chars :=
      "ÇüéâäàåçêëèïîìÄÅÉæÆôöòûùÿÖÜ¢£¥₧ƒáíóúñÑªº¿⌐¬½¼¡«»░▒▓│┤╡╢╖╕╣║╗╝╜╛┐└┴┬├─┼╞╟╚╔╩╦╠═╬╧╨╤╥╙╘╒╓╫" ++
      "╪┘┌█▄▌▐▀αßΓπΣσ\u00b5τΦΘΩδ∞φε∩≡±≥≤⌠⌡÷≈°∙·√\u207f²■\u00a0" },
  { name := "cp500"
    aliases := ["500", "csibm500", "ebcdic_cp_be", "ebcdic_cp_ch", "ibm500"]
    first := 0x00
    chars :=
      "\u0000\u0001\u0002\u0003\u009c\u0009\u0086\u007f\u0097\u008d\u008e\u000b\u000c\u000d" ++
      "\u000e\u000f\u0010\u0011\u0012\u0013\u009d\u0085\u0008\u0087\u0018\u0019\u0092\u008f" ++
      "\u001c\u001d\u001e\u001f\u0080\u0081\u0082\u0083\u0084\u000a\u0017\u001b\u0088\u0089" ++
      "\u008a\u008b\u008c\u0005\u0006\u0007\u0090\u0091\u0016\u0093\u0094\u0095\u0096\u0004" ++
      "\u0098\u0099\u009a\u009b\u0014\u0015\u009e\u001a \u00a0âäàáãåçñ[.<(+!&éêëèíîïìß]$*);^-/Â" ++
      "ÄÀÁÃÅÇÑ¦,%_>?øÉÊËÈÍÎÏÌ`:#@'=\x22Øabcdefghi«»ðýþ±°jklmnopqrªºæ\u00b8Æ¤\u00b5~stuvwxyz¡¿ÐÝ" ++
      "Þ®¢£¥·©§¶¼½¾¬|\u00af\u00a8\u00b4×\x7bABCDEFGHI\u00adôöòóõ\x7dJKLMNOPQR¹ûüùúÿ\x5c÷STUVWXY" ++
      "Z²ÔÖÒÓÕ0123456789³ÛÜÙÚ\u009f" },
  { name := "cp720"
    aliases := []
    first := 0x80
    chars :=
      "\u0080\u0081éâ\u0084à\u0086çêëèïî\u008d\u008e\u008f\u0090\u0651\u0652ô¤\u0640ûù\u0621" ++
      "\u0622\u0623\u0624£\u0625\u0626\u0627\u0628\u0629\u062a\u062b\u062c\u062d\u062e\u062f" ++
      "\u0630\u0631\u0632\u0633\u0634\u0635«»░▒▓│┤╡╢╖╕╣║╗╝╜╛┐└┴┬├─┼╞╟╚╔╩╦╠═╬╧╨╤╥╙╘╒╓╫╪┘┌█▄▌▐▀" ++
      "\u0636\u0637\u0638\u0639\u063a\u0641\u00b5\u0642\u0643\u0644\u0645\u0646\u0647\u0648" ++
      "\u0649\u064a≡\u064b\u064c\u064d\u064e\u064f\u0650≈°∙·√\u207f²■\u00a0" },
  { name := "cp737"
    aliases := []
    first := 0x80
    chars :=
      "ΑΒΓΔΕΖΗΘΙΚΛΜΝΞΟΠΡΣΤΥΦΧΨΩαβγδεζηθικλμνξοπρσςτυφχψ░▒▓│┤╡╢╖╕╣║╗╝╜╛┐└┴┬├─┼╞╟╚╔╩╦╠═╬╧╨╤╥╙╘╒╓╫" ++
      "╪┘┌█▄▌▐▀ωάέήϊίόύϋώΆΈΉΊΌΎΏ±≥≤ΪΫ÷≈°∙·√\u207f²■\u00a0" },
  { name := "cp775"
    aliases := ["775", "cspc775baltic", "ibm775"]
    first := 0x80
    chars :=
      "ĆüéāäģåćłēŖŗīŹÄÅÉæÆōöĢ¢ŚśÖÜø£Ø×¤ĀĪóŻżź”¦©®¬½¼Ł«»░▒▓│┤ĄČĘĖ╣║╗╝ĮŠ┐└┴┬├─┼ŲŪ╚╔╩╦╠═╬Žąčęėįšųū" ++
      "ž┘┌█▄▌▐▀ÓßŌŃõÕ\u00b5ńĶķĻļņĒŅ’\u00ad±“¾¶§÷„°∙·¹³²■\u00a0" },
  { name := "cp850"
    aliases := ["850", "cspc850multilingual", "ibm850"]
    first := 0x80
    chars :=
      "ÇüéâäàåçêëèïîìÄÅÉæÆôöòûùÿÖÜø£Ø×ƒáíóúñÑªº¿®¬½¼¡«»░▒▓│┤ÁÂÀ©╣║╗╝¢¥┐└┴┬├─┼ãÃ╚╔╩╦╠═╬¤ðÐÊËÈıÍÎ" ++
      "Ï┘┌█▄¦Ì▀ÓßÔÒõÕ\u00b5þÞÚÛÙýÝ\u00af\u00b4\u00ad±\u2017¾¶§÷\u00b8°\u00a8·¹³²■\u00a0" },
  { name := "cp852"
    aliases := ["852", "cspcp852", "ibm852"]
    first := 0x80
    chars :=
      "ÇüéâäůćçłëŐőîŹÄĆÉĹĺôöĽľŚśÖÜŤťŁ×čáíóúĄąŽžĘę¬źČş«»░▒▓│┤ÁÂĚŞ╣║╗╝Żż┐└┴┬├─┼Ăă╚╔╩╦╠═╬¤đĐĎËďŇÍÎ" ++
      "ě┘┌█▄ŢŮ▀ÓßÔŃńňŠšŔÚŕŰýÝţ\u00b4\u00ad\u02dd\u02db\u02c7\u02d8§÷\u00b8°\u00a8\u02d9űŘř■" ++
      "\u00a0" },
  { name := "cp855"
    aliases := ["855", "csibm855", "ibm855"]
    first := 0x80
    chars :=
      "ђЂѓЃёЁєЄѕЅіІїЇјЈљЉњЊћЋќЌўЎџЏюЮъЪаАбБцЦдДеЕфФгГ«»░▒▓│┤хХиИ╣║╗╝йЙ┐└┴┬├─┼кК╚╔╩╦╠═╬¤лЛмМнНоО" ++
      "п┘┌█▄Пя▀ЯрРсСтТуУжЖвВьЬ\u2116\u00adыЫзЗшШэЭщЩчЧ§■\u00a0" },
  { name := "cp856"
    aliases := []
    first := 0x80
    chars :=
      "\u05d0\u05d1\u05d2\u05d3\u05d4\u05d5\u05d6\u05d7\u05d8\u05d9\u05da\u05db\u05dc\u05dd" ++
      "\u05de\u05df\u05e0\u05e1\u05e2\u05e3\u05e4\u05e5\u05e6\u05e7\u05e8\u05e9\u05ea\ufffd£" ++
      "\ufffd×\ufffd\ufffd\ufffd\ufffd\ufffd\ufffd\ufffd\ufffd\ufffd\ufffd®¬½¼\ufffd«»░▒▓│┤" ++
      "\ufffd\ufffd\ufffd©╣║╗╝¢¥┐└┴┬├─┼\ufffd\ufffd╚╔╩╦╠═╬¤\ufffd\ufffd\ufffd\ufffd\ufffd\ufffd" ++
      "\ufffd\ufffd\ufffd┘┌█▄¦\ufffd▀\ufffd\ufffd\ufffd\ufffd\ufffd\ufffd\u00b5\ufffd\ufffd" ++
      "\ufffd\ufffd\ufffd\ufffd\ufffd\u00af\u00b4\u00ad±\u2017¾¶§÷\u00b8°\u00a8·¹³²■\u00a0" },
  { name := "cp857"
    aliases := ["857", "csibm857", "ibm857"]
    first := 0x80
    chars :=
      "ÇüéâäàåçêëèïîıÄÅÉæÆôöòûùİÖÜø£ØŞşáíóúñÑĞğ¿®¬½¼¡«»░▒▓│┤ÁÂÀ©╣║╗╝¢¥┐└┴┬├─┼ãÃ╚╔╩╦╠═╬¤ºªÊËÈ" ++
      "\ufffdÍÎÏ┘┌█▄¦Ì▀ÓßÔÒõÕ\u00b5\ufffd×ÚÛÙìÿ\u00af\u00b4\u00ad±\ufffd¾¶§÷\u00b8°\u00a8·¹³²■" ++
      "\u00a0" },
  { name := "cp858"
    aliases := ["858", "csibm858", "ibm858"]
    first := 0x80
    chars :=
      "ÇüéâäàåçêëèïîìÄÅÉæÆôöòûùÿÖÜø£Ø×ƒáíóúñÑªº¿®¬½¼¡«»░▒▓│┤ÁÂÀ©╣║╗╝¢¥┐└┴┬├─┼ãÃ╚╔╩╦╠═╬¤ðÐÊËÈ€ÍÎ" ++
      "Ï┘┌█▄¦Ì▀ÓßÔÒõÕ\u00b5þÞÚÛÙýÝ\u00af\u00b4\u00ad±\u2017¾¶§÷\u00b8°\u00a8·¹³²■\u00a0" },
  { name := "cp860"
    aliases := ["860", "csibm860", "ibm860"]
    first := 0x80
    chars :=
      "ÇüéâãàÁçêÊèÍÔìÃÂÉÀÈôõòÚùÌÕÜ¢£Ù₧ÓáíóúñÑªº¿Ò¬½¼¡«»░▒▓│┤╡╢╖╕╣║╗╝╜╛┐└┴┬├─┼╞╟╚╔╩╦╠═╬╧╨╤╥╙╘╒╓╫" ++
      "╪┘┌█▄▌▐▀αßΓπΣσ\u00b5τΦΘΩδ∞φε∩≡±≥≤⌠⌡÷≈°∙·√\u207f²■\u00a0" },
  { name := "cp861"
    aliases := ["861", "cp_is", "csibm861", "ibm861"]
    first := 0x80
    chars :=
      "ÇüéâäàåçêëèÐðÞÄÅÉæÆôöþûÝýÖÜø£Ø₧ƒáíóúÁÍÓÚ¿⌐¬½¼¡«»░▒▓│┤╡╢╖╕╣║╗╝╜╛┐└┴┬├─┼╞╟╚╔╩╦╠═╬╧╨╤╥╙╘╒╓╫" ++
      "╪┘┌█▄▌▐▀αßΓπΣσ\u00b5τΦΘΩδ∞φε∩≡±≥≤⌠⌡÷≈°∙·√\u207f²■\u00a0" },
  { name := "cp862"
    aliases := ["862", "cspc862latinhebrew", "ibm862"]
    first := 0x80
    chars :=
      "\u05d0\u05d1\u05d2\u05d3\u05d4\u05d5\u05d6\u05d7\u05d8\u05d9\u05da\u05db\u05dc\u05dd" ++
      "\u05de\u05df\u05e0\u05e1\u05e2\u05e3\u05e4\u05e5\u05e6\u05e7\u05e8\u05e9\u05ea¢£¥₧ƒáíóúñ" ++
      "Ñªº¿⌐¬½¼¡«»░▒▓│┤╡╢╖╕╣║╗╝╜╛┐└┴┬├─┼╞╟╚╔╩╦╠═╬╧╨╤╥╙╘╒╓╫╪┘┌█▄▌▐▀αßΓπΣσ\u00b5τΦΘΩδ∞φε∩≡±≥≤⌠⌡÷≈" ++
      "°∙·√\u207f²■\u00a0" },
  { name := "cp863"
    aliases := ["863", "csibm863", "ibm863"]
    first := 0x80
    chars :=
      "ÇüéâÂà¶çêëèïî\u2017À§ÉÈÊôËÏûù¤ÔÜ¢£ÙÛƒ¦\u00b4óú\u00a8\u00b8³\u00afÎ⌐¬½¼¾«»░▒▓│┤╡╢╖╕╣║╗╝╜╛" ++
      "┐└┴┬├─┼╞╟╚╔╩╦╠═╬╧╨╤╥╙╘╒╓╫╪┘┌█▄▌▐▀αßΓπΣσ\u00b5τΦΘΩδ∞φε∩≡±≥≤⌠⌡÷≈°∙·√\u207f²■\u00a0" },
  { name := "cp864"
    aliases := ["864", "csibm864", "ibm864"]
    first := 0x00
    chars :=
      "\u0000\u0001\u0002\u0003\u0004\u0005\u0006\u0007\u0008\u0009\u000a\u000b\u000c\u000d" ++
      "\u000e\u000f\u0010\u0011\u0012\u0013\u0014\u0015\u0016\u0017\u0018\u0019\u001a\u001b" ++
      "\u001c\u001d\u001e\u001f !\x22#$٪&'()*+,-./0123456789:;<=>?@ABCDEFGHIJKLMNOPQRSTUVWXYZ[" ++
      "\x5c]^_`abcdefghijklmnopqrstuvwxyz\x7b|\x7d~\u007f°·∙√▒─│┼┤┬├┴┐┌└┘β∞φ±½¼≈«»\ufef7\ufef8" ++
      "\ufffd\ufffd\ufefb\ufefc\ufffd\u00a0\u00ad\ufe82£¤\ufe84\ufffd\ufffd\ufe8e\ufe8f\ufe95" ++
      "\ufe99،\ufe9d\ufea1\ufea5\u0660\u0661\u0662\u0663\u0664\u0665\u0666\u0667\u0668\u0669" ++
      "\ufed1\u061b\ufeb1\ufeb5\ufeb9\u061f¢\ufe80\ufe81\ufe83\ufe85\ufeca\ufe8b\ufe8d\ufe91" ++
      "\ufe93\ufe97\ufe9b\ufe9f\ufea3\ufea7\ufea9\ufeab\ufead\ufeaf\ufeb3\ufeb7\ufebb\ufebf" ++
      "\ufec1\ufec5\ufecb\ufecf¦¬÷×\ufec9\u0640\ufed3\ufed7\ufedb\ufedf\ufee3\ufee7\ufeeb\ufeed" ++
      "\ufeef\ufef3\ufebd\ufecc\ufece\ufecd\ufee1\ufe7d\u0651\ufee5\ufee9\ufeec\ufef0\ufef2" ++
      "\ufed0\ufed5\ufef5\ufef6\ufedd\ufed9\ufef1■\ufffd" },
  { name := "cp865"
    aliases := ["865", "csibm865", "ibm865"]
    first := 0x80
    chars :=
      "ÇüéâäàåçêëèïîìÄÅÉæÆôöòûùÿÖÜø£Ø₧ƒáíóúñÑªº¿⌐¬½¼¡«¤░▒▓│┤╡╢╖╕╣║╗╝╜╛┐└┴┬├─┼╞╟╚╔╩╦╠═╬╧╨╤╥╙╘╒╓╫" ++
      "╪┘┌█▄▌▐▀αßΓπΣσ\u00b5τΦΘΩδ∞φε∩≡±≥≤⌠⌡÷≈°∙·√\u207f²■\u00a0" },
  { name := "cp866"
    aliases := ["866", "csibm866", "ibm866"]
    first := 0x80
    chars :=
      "АБВГДЕЖЗИЙКЛМНОПРСТУФХЦЧШЩЪЫЬЭЮЯабвгдежзийклмноп░▒▓│┤╡╢╖╕╣║╗╝╜╛┐└┴┬├─┼╞╟╚╔╩╦╠═╬╧╨╤╥╙╘╒╓╫" ++
      "╪┘┌█▄▌▐▀рстуфхцчшщъыьэюяЁёЄєЇїЎў°∙·√\u2116¤■\u00a0" },
  { name := "cp869"
    aliases := ["869", "cp_gr", "csibm869", "ibm869"]
    first := 0x80
    chars :=
      "\ufffd\ufffd\ufffd\ufffd\ufffd\ufffdΆ\ufffd·¬¦‘’Έ―ΉΊΪΌ\ufffd\ufffdΎΫ©Ώ²³ά£έήίϊΐόύΑΒΓΔΕΖΗ" ++
      "½ΘΙ«»░▒▓│┤ΚΛΜΝ╣║╗╝ΞΟ┐└┴┬├─┼ΠΡ╚╔╩╦╠═╬ΣΤΥΦΧΨΩαβγ┘┌█▄δε▀ζηθικλμνξοπρσςτ\u0384\u00ad±υφχ§ψ΅°" ++
      "\u00a8ωϋΰώ■\u00a0" },
  { name := "cp874"
    aliases := []
    first := 0x80
    chars :=
      "€\ufffd\ufffd\ufffd\ufffd\u2026\ufffd\ufffd\ufffd\ufffd\ufffd\ufffd\ufffd\ufffd\ufffd" ++
      "\ufffd\ufffd‘’“”•–—\ufffd\ufffd\ufffd\ufffd\ufffd\ufffd\ufffd\ufffd\u00a0กขฃคฅฆงจฉชซฌญฎฏ" ++
      "ฐฑฒณดตถทธนบปผฝพฟภมยรฤลฦวศษสหฬอฮฯะ\u0e31า\u0e33\u0e34\u0e35\u0e36\u0e37\u0e38\u0e39\u0e3a" ++
      "\ufffd\ufffd\ufffd\ufffd฿เแโใไๅ\u0e46\u0e47\u0e48\u0e49\u0e4a\u0e4b\u0e4c\u0e4d\u0e4e๏๐๑" ++
      "๒๓๔๕๖๗๘๙๚๛\ufffd\ufffd\ufffd\ufffd" },
  { name := "cp875"
    aliases := []
    first := 0x00
    chars :=
      "\u0000\u0001\u0002\u0003\u009c\u0009\u0086\u007f\u0097\u008d\u008e\u000b\u000c\u000d" ++
      "\u000e\u000f\u0010\u0011\u0012\u0013\u009d\u0085\u0008\u0087\u0018\u0019\u0092\u008f" ++
      "\u001c\u001d\u001e\u001f\u0080\u0081\u0082\u0083\u0084\u000a\u0017\u001b\u0088\u0089" ++
      "\u008a\u008b\u008c\u0005\u0006\u0007\u0090\u0091\u0016\u0093\u0094\u0095\u0096\u0004" ++
      "\u0098\u0099\u009a\u009b\u0014\u0015\u009e\u001a ΑΒΓΔΕΖΗΘΙ[.<(+!&ΚΛΜΝΞΟΠΡΣ]$*);^-/ΤΥΦΧΨΩ" ++
      "ΪΫ|,%_>?\u00a8ΆΈΉ\u00a0ΊΌΎΏ`:#@'=\x22΅abcdefghiαβγδεζ°jklmnopqrηθικλμ\u00b4~stuvwxyzνξοπ" ++
      "ρσ£άέήϊίόύϋώςτυφχψ\x7bABCDEFGHI\u00adωΐΰ‘―\x7dJKLMNOPQR±½\u001a·’¦\x5c\u001aSTUVWXYZ²§" ++
      "\u001a\u001a«¬0123456789³©\u001a\u001a»\u009f" },
  { name := "hp_roman8"
    aliases := ["cp1051", "csHPRoman8", "ibm1051", "r8", "roman8"]
    first := 0xa0
    chars :=
      "\u00a0ÀÂÈÊËÎÏ\u00b4\u02cb\u02c6\u00a8\u02dcÙÛ₤\u00afÝý°ÇçÑñ¡¿¤£¥§ƒ¢âêôûáéóúàèòùäëöüÅîØÆå" ++
      "íøæÄìÖÜÉïßÔÁÃãÐðÍÌÓÒÕõŠšÚŸÿÞþ·\u00b5¶¾—¼½ªº«■»±\ufffd" },
  { name := "iso8859_10"
    aliases := ["csisolatin6", "iso_8859_10", "iso_8859_10_1992", "iso_ir_157", "l6", "latin6"]
    first := 0xa0
    chars :=
      "\u00a0ĄĒĢĪĨĶ§ĻĐŠŦŽ\u00adŪŊ°ąēģīĩķ·ļđšŧž―ūŋĀÁÂÃÄÅÆĮČÉĘËĖÍÎÏÐŅŌÓÔÕÖŨØŲÚÛÜÝÞßāáâãäåæįčéęëėí" ++
      "îïðņōóôõöũøųúûüýþĸ" },
  { name := "iso8859_11"
    aliases := ["iso_8859_11", "iso_8859_11_2001", "thai"]
    first := 0xa0
    chars :=
      "\u00a0กขฃคฅฆงจฉชซฌญฎฏฐฑฒณดตถทธนบปผฝพฟภมยรฤลฦวศษสหฬอฮฯะ\u0e31า\u0e33\u0e34\u0e35\u0e36" ++
      "\u0e37\u0e38\u0e39\u0e3a\ufffd\ufffd\ufffd\ufffd฿เแโใไๅ\u0e46\u0e47\u0e48\u0e49\u0e4a" ++
      "\u0e4b\u0e4c\u0e4d\u0e4e๏๐๑๒๓๔๕๖๗๘๙๚๛\ufffd\ufffd\ufffd\ufffd" },
  { name := "iso8859_13"
    aliases := ["iso_8859_13", "l7", "latin7"]
    first := 0xa0
    chars :=
      "\u00a0”¢£¤„¦§Ø©Ŗ«¬\u00ad®Æ°±²³“\u00b5¶·ø¹ŗ»¼½¾æĄĮĀĆÄÅĘĒČÉŹĖĢĶĪĻŠŃŅÓŌÕÖ×ŲŁŚŪÜŻŽßąįāćäåęēč" ++
      "éźėģķīļšńņóōõö÷ųłśūüżž’" },
  { name := "iso8859_14"
    aliases := ["iso_8859_14", "iso_8859_14_1998", "iso_celtic", "iso_ir_199", "l8", "latin8"]
    first := 0xa0
    chars :=
      "\u00a0Ḃḃ£ĊċḊ§Ẁ©ẂḋỲ\u00ad®ŸḞḟĠġṀṁ¶ṖẁṗẃṠỳẄẅṡÀÁÂÃÄÅÆÇÈÉÊËÌÍÎÏŴÑÒÓÔÕÖṪØÙÚÛÜÝŶßàáâãäåæçèéêëìí" ++
      "îïŵñòóôõöṫøùúûüýŷÿ" },
  { name := "iso8859_15"
    aliases := ["iso_8859_15", "l9", "latin9"]
    first := 0xa0
    chars :=
      "\u00a0¡¢£€¥Š§š©ª«¬\u00ad®\u00af°±²³Ž\u00b5¶·ž¹º»ŒœŸ¿ÀÁÂÃÄÅÆÇÈÉÊËÌÍÎÏÐÑÒÓÔÕÖ×ØÙÚÛÜÝÞßàáâã" ++
      "äåæçèéêëìíîïðñòóôõö÷øùúûüýþÿ" },
  { name := "iso8859_16"
    aliases := ["iso_8859_16", "iso_8859_16_2001", "iso_ir_226", "l10", "latin10"]
    first := 0xa0
    chars :=
      "\u00a0ĄąŁ€„Š§š©Ș«Ź\u00adźŻ°±ČłŽ”¶·žčș»ŒœŸżÀÁÂĂÄĆÆÇÈÉÊËÌÍÎÏĐŃÒÓÔŐÖŚŰÙÚÛÜĘȚßàáâăäćæçèéêëìí" ++
      "îïđńòóôőöśűùúûüęțÿ" },
  { name := "iso8859_2"
    aliases := ["csisolatin2", "iso_8859_2", "iso_8859_2_1987", "iso_ir_101", "l2", "latin2"]
    first := 0xa0
    chars :=
      "\u00a0Ą\u02d8Ł¤ĽŚ§\u00a8ŠŞŤŹ\u00adŽŻ°ą\u02dbł\u00b4ľś\u02c7\u00b8šşťź\u02ddžżŔÁÂĂÄĹĆÇČÉĘ" ++
      "ËĚÍÎĎĐŃŇÓÔŐÖ×ŘŮÚŰÜÝŢßŕáâăäĺćçčéęëěíîďđńňóôőö÷řůúűüýţ\u02d9" },
  { name := "iso8859_3"
    aliases := ["csisolatin3", "iso_8859_3", "iso_8859_3_1988", "iso_ir_109", "l3", "latin3"]
    first := 0xa0
    chars :=
      "\u00a0Ħ\u02d8£¤\ufffdĤ§\u00a8İŞĞĴ\u00ad\ufffdŻ°ħ²³\u00b4\u00b5ĥ·\u00b8ışğĵ½\ufffdżÀÁÂ" ++
      "\ufffdÄĊĈÇÈÉÊËÌÍÎÏ\ufffdÑÒÓÔĠÖ×ĜÙÚÛÜŬŜßàáâ\ufffdäċĉçèéêëìíîï\ufffdñòóôġö÷ĝùúûüŭŝ\u02d9" },
  { name := "iso8859_4"
    aliases := ["csisolatin4", "iso_8859_4", "iso_8859_4_1988", "iso_ir_110", "l4", "latin4"]
    first := 0xa0
    chars :=
      "\u00a0ĄĸŖ¤ĨĻ§\u00a8ŠĒĢŦ\u00adŽ\u00af°ą\u02dbŗ\u00b4ĩļ\u02c7\u00b8šēģŧŊžŋĀÁÂÃÄÅÆĮČÉĘËĖÍÎĪ" ++
      "ĐŅŌĶÔÕÖ×ØŲÚÛÜŨŪßāáâãäåæįčéęëėíîīđņōķôõö÷øųúûüũū\u02d9" },
  { name := "iso8859_5"
    aliases := ["csisolatincyrillic", "cyrillic", "iso_8859_5", "iso_8859_5_1988", "iso_ir_144"]
    first := 0xa0
    chars :=
      "\u00a0ЁЂЃЄЅІЇЈЉЊЋЌ\u00adЎЏАБВГДЕЖЗИЙКЛМНОПРСТУФХЦЧШЩЪЫЬЭЮЯабвгдежзийклмнопрстуфхцчшщъыьэ" ++
      "юя\u2116ёђѓєѕіїјљњћќ§ўџ" },
  { name := "iso8859_6"
    aliases := [
      "arabic", "asmo_708", "csisolatinarabic", "ecma_114", "iso_8859_6", "iso_8859_6_1987",
      "iso_ir_127"]
    first := 0xa0
    chars :=
      "\u00a0\ufffd\ufffd\ufffd¤\ufffd\ufffd\ufffd\ufffd\ufffd\ufffd\ufffd،\u00ad\ufffd\ufffd" ++
      "\ufffd\ufffd\ufffd\ufffd\ufffd\ufffd\ufffd\ufffd\ufffd\ufffd\ufffd\u061b\ufffd\ufffd" ++
      "\ufffd\u061f\ufffd\u0621\u0622\u0623\u0624\u0625\u0626\u0627\u0628\u0629\u062a\u062b" ++
      "\u062c\u062d\u062e\u062f\u0630\u0631\u0632\u0633\u0634\u0635\u0636\u0637\u0638\u0639" ++
      "\u063a\ufffd\ufffd\ufffd\ufffd\ufffd\u0640\u0641\u0642\u0643\u0644\u0645\u0646\u0647" ++
      "\u0648\u0649\u064a\u064b\u064c\u064d\u064e\u064f\u0650\u0651\u0652\ufffd\ufffd\ufffd" ++
      "\ufffd\ufffd\ufffd\ufffd\ufffd\ufffd\ufffd\ufffd\ufffd\ufffd" },
  { name := "iso8859_7"
    aliases := [
      "csisolatingreek", "ecma_118", "elot_928", "greek", "greek8", "iso_8859_7", "iso_8859_7_1987",
      "iso_ir_126"]
    first := 0xa0
    chars :=
      "\u00a0‘’£€₯¦§\u00a8©\u037a«¬\u00ad\ufffd―°±²³\u0384΅Ά·ΈΉΊ»Ό½ΎΏΐΑΒΓΔΕΖΗΘΙΚΛΜΝΞΟΠΡ\ufffdΣΤ" ++
      "ΥΦΧΨΩΪΫάέήίΰαβγδεζηθικλμνξοπρςστυφχψωϊϋόύώ\ufffd" },
  { name := "iso8859_8"
    aliases := ["csisolatinhebrew", "hebrew", "iso_8859_8", "iso_8859_8_1988", "iso_ir_138"]
    first := 0xa0
    chars :=
      "\u00a0\ufffd¢£¤¥¦§\u00a8©×«¬\u00ad®\u00af°±²³\u00b4\u00b5¶·\u00b8¹÷»¼½¾\ufffd\ufffd" ++
      "\ufffd\ufffd\ufffd\ufffd\ufffd\ufffd\ufffd\ufffd\ufffd\ufffd\ufffd\ufffd\ufffd\ufffd" ++
      "\ufffd\ufffd\ufffd\ufffd\ufffd\ufffd\ufffd\ufffd\ufffd\ufffd\ufffd\ufffd\ufffd\ufffd" ++
      "\ufffd\ufffd\u2017\u05d0\u05d1\u05d2\u05d3\u05d4\u05d5\u05d6\u05d7\u05d8\u05d9\u05da" ++
      "\u05db\u05dc\u05dd\u05de\u05df\u05e0\u05e1\u05e2\u05e3\u05e4\u05e5\u05e6\u05e7\u05e8" ++
      "\u05e9\u05ea\ufffd\ufffd\u200e\u200f\ufffd" },
  { name := "iso8859_9"
    aliases := ["csisolatin5", "iso_8859_9", "iso_8859_9_1989", "iso_ir_148", "l5", "latin5"]
    first := 0xa0
    chars :=
      "\u00a0¡¢£¤¥¦§\u00a8©ª«¬\u00ad®\u00af°±²³\u00b4\u00b5¶·\u00b8¹º»¼½¾¿ÀÁÂÃÄÅÆÇÈÉÊËÌÍÎÏĞÑÒÓÔ" ++
      "ÕÖ×ØÙÚÛÜİŞßàáâãäåæçèéêëìíîïğñòóôõö÷øùúûüışÿ" },
  { name := "koi8_r"
    aliases := ["cskoi8r"]
    first := 0x80
    chars :=
      "─│┌┐└┘├┤┬┴┼▀▄█▌▐░▒▓⌠■∙√≈≤≥\u00a0⌡°²·÷═║╒ё╓╔╕╖╗╘╙╚╛╜╝╞╟╠╡Ё╢╣╤╥╦╧╨╩╪╫╬©юабцдефгхийклмнопяр" ++
      "стужвьызшэщчъЮАБЦДЕФГХИЙКЛМНОПЯРСТУЖВЬЫЗШЭЩЧЪ" },
  { name := "koi8_t"
    aliases := []
    first := 0x80
    chars :=
      "қғ‚Ғ„\u2026†‡\ufffd‰ҳ‹ҲҷҶ\ufffdҚ‘’“”•–—\ufffd™\ufffd›\ufffd\ufffd\ufffd\ufffd\ufffdӯӮё¤ӣ" ++
      "¦§\ufffd\ufffd\ufffd«¬\u00ad®\ufffd°±²Ё\ufffdӢ¶·\ufffd\u2116\ufffd»\ufffd\ufffd\ufffd©юа" ++
      "бцдефгхийклмнопярстужвьызшэщчъЮАБЦДЕФГХИЙКЛМНОПЯРСТУЖВЬЫЗШЭЩЧЪ" },
  { name := "koi8_u"
    aliases := []
    first := 0x80
    chars :=
      "─│┌┐└┘├┤┬┴┼▀▄█▌▐░▒▓⌠■∙√≈≤≥\u00a0⌡°²·÷═║╒ёє╔ії╗╘╙╚╛ґ╝╞╟╠╡ЁЄ╣ІЇ╦╧╨╩╪Ґ╬©юабцдефгхийклмнопяр" ++
      "стужвьызшэщчъЮАБЦДЕФГХИЙКЛМНОПЯРСТУЖВЬЫЗШЭЩЧЪ" },
  { name := "kz1048"
    aliases := ["kz_1048", "rk1048", "strk1048_2002"]
    first := 0x80
    chars :=
      "ЂЃ‚ѓ„\u2026†‡€‰Љ‹ЊҚҺЏђ‘’“”•–—\ufffd™љ›њқһџ\u00a0ҰұӘ¤Ө¦§Ё©Ғ«¬\u00ad®Ү°±Ііө\u00b5¶·ё\u2116" ++
      "ғ»әҢңүАБВГДЕЖЗИЙКЛМНОПРСТУФХЦЧШЩЪЫЬЭЮЯабвгдежзийклмнопрстуфхцчшщъыьэюя" },
  { name := "mac_arabic"
    aliases := []
    first := 0x80
    chars :=
      "Ä\u00a0ÇÉÑÖÜáàâä\u06ba«çéèêëí\u2026îïñó»ôö÷úùûü !\x22#$٪&'()*+،-./\u0660\u0661\u0662" ++
      "\u0663\u0664\u0665\u0666\u0667\u0668\u0669:\u061b<=>\u061f❊\u0621\u0622\u0623\u0624" ++
      "\u0625\u0626\u0627\u0628\u0629\u062a\u062b\u062c\u062d\u062e\u062f\u0630\u0631\u0632" ++
      "\u0633\u0634\u0635\u0636\u0637\u0638\u0639\u063a[\x5c]^_\u0640\u0641\u0642\u0643\u0644" ++
      "\u0645\u0646\u0647\u0648\u0649\u064a\u064b\u064c\u064d\u064e\u064f\u0650\u0651\u0652" ++
      "\u067e\u0679\u0686\u06d5\u06a4\u06af\u0688\u0691\x7b|\x7d\u0698\u06d2" },
  { name := "mac_croatian"
    aliases := []
    first := 0x80
    chars :=
      "ÄÅÇÉÑÖÜáàâäãåçéèêëíìîïñóòôöõúùûü†°¢£§•¶ß®Š™\u00b4\u00a8≠ŽØ∞±≤≥∆\u00b5∂∑∏š∫ªºΩžø¿¡¬√ƒ≈Ć«Č" ++
      "\u2026\u00a0ÀÃÕŒœĐ—“”‘’÷◊\uf8ff©⁄€‹›Æ»–·‚„‰ÂćÁčÈÍÎÏÌÓÔđÒÚÛÙı\u02c6\u02dc\u00afπË\u02da" ++
      "\u00b8Êæ\u02c7" },
  { name := "mac_cyrillic"
    aliases := ["maccyrillic"]
    first := 0x80
    chars :=
      "АБВГДЕЖЗИЙКЛМНОПРСТУФХЦЧШЩЪЫЬЭЮЯ†°Ґ£§•¶І®©™Ђђ≠Ѓѓ∞±≤≥і\u00b5ґЈЄєЇїЉљЊњјЅ¬√ƒ≈∆«»\u2026" ++
      "\u00a0ЋћЌќѕ–—“”‘’÷„ЎўЏџ\u2116Ёёяабвгдежзийклмнопрстуфхцчшщъыьэю€" },
  { name := "mac_farsi"
    aliases := []
    first := 0x80
    chars :=
      "Ä\u00a0ÇÉÑÖÜáàâä\u06ba«çéèêëí\u2026îïñó»ôö÷úùûü !\x22#$٪&'()*+،-./۰۱۲۳۴۵۶۷۸۹:\u061b<=>" ++
      "\u061f❊\u0621\u0622\u0623\u0624\u0625\u0626\u0627\u0628\u0629\u062a\u062b\u062c\u062d" ++
      "\u062e\u062f\u0630\u0631\u0632\u0633\u0634\u0635\u0636\u0637\u0638\u0639\u063a[\x5c]^_" ++
      "\u0640\u0641\u0642\u0643\u0644\u0645\u0646\u0647\u0648\u0649\u064a\u064b\u064c\u064d" ++
      "\u064e\u064f\u0650\u0651\u0652\u067e\u0679\u0686\u06d5\u06a4\u06af\u0688\u0691\x7b|\x7d" ++
      "\u0698\u06d2" },
  { name := "mac_greek"
    aliases := ["macgreek"]
    first := 0x80
    chars :=
      "Ä¹²É³ÖÜ΅àâä\u0384\u00a8çéèêë£™îï•½‰ôö¦€ùûü†ΓΔΘΛΞΠß®©ΣΪ§≠°·Α±≤≥¥ΒΕΖΗΙΚΜΦΫΨΩάΝ¬ΟΡ≈Τ«»" ++
      "\u2026\u00a0ΥΧΆΈœ–―“”‘’÷ΉΊΌΎέήίόΏύαβψδεφγηιξκλμνοπώρστθωςχυζϊϋΐΰ\u00ad" },
  { name := "mac_iceland"
    aliases := ["maciceland"]
    first := 0x80
    chars :=
      "ÄÅÇÉÑÖÜáàâäãåçéèêëíìîïñóòôöõúùûüÝ°¢£§•¶ß®©™\u00b4\u00a8≠ÆØ∞±≤≥¥\u00b5∂∑∏π∫ªºΩæø¿¡¬√ƒ≈∆«»" ++
      "\u2026\u00a0ÀÃÕŒœ–—“”‘’÷◊ÿŸ⁄€ÐðÞþý·‚„‰ÂÊÁËÈÍÎÏÌÓÔ\uf8ffÒÚÛÙı\u02c6\u02dc\u00af\u02d8" ++
      "\u02d9\u02da\u00b8\u02dd\u02db\u02c7" },
  { name := "mac_latin2"
    aliases := ["mac_centeuro", "maccentraleurope", "maclatin2"]
    first := 0x80
    chars :=
      "ÄĀāÉĄÖÜáąČäčĆćéŹźĎíďĒēĖóėôöõúĚěü†°Ę£§•¶ß®©™ę\u00a8≠ģĮįĪ≤≥īĶ∂∑łĻļĽľĹĺŅņŃ¬√ńŇ∆«»\u2026" ++
      "\u00a0ňŐÕőŌ–—“”‘’÷◊ōŔŕŘ‹›řŖŗŠ‚„šŚśÁŤťÍŽžŪÓÔūŮÚůŰűŲųÝýķŻŁżĢ\u02c7" },
  { name := "mac_roman"
    aliases := ["macintosh", "macroman"]
    first := 0x80
    chars :=
      "ÄÅÇÉÑÖÜáàâäãåçéèêëíìîïñóòôöõúùûü†°¢£§•¶ß®©™\u00b4\u00a8≠ÆØ∞±≤≥¥\u00b5∂∑∏π∫ªºΩæø¿¡¬√ƒ≈∆«»" ++
      "\u2026\u00a0ÀÃÕŒœ–—“”‘’÷◊ÿŸ⁄€‹›\ufb01\ufb02‡·‚„‰ÂÊÁËÈÍÎÏÌÓÔ\uf8ffÒÚÛÙı\u02c6\u02dc\u00af" ++
      "\u02d8\u02d9\u02da\u00b8\u02dd\u02db\u02c7" },
  { name := "mac_romanian"
    aliases := []
    first := 0x80
    chars :=
      "ÄÅÇÉÑÖÜáàâäãåçéèêëíìîïñóòôöõúùûü†°¢£§•¶ß®©™\u00b4\u00a8≠ĂȘ∞±≤≥¥\u00b5∂∑∏π∫ªºΩăș¿¡¬√ƒ≈∆«»" ++
      "\u2026\u00a0ÀÃÕŒœ–—“”‘’÷◊ÿŸ⁄€‹›Țț‡·‚„‰ÂÊÁËÈÍÎÏÌÓÔ\uf8ffÒÚÛÙı\u02c6\u02dc\u00af\u02d8" ++
      "\u02d9\u02da\u00b8\u02dd\u02db\u02c7" },
  { name := "mac_turkish"
    aliases := ["macturkish"]
    first := 0x80
    chars :=
      "ÄÅÇÉÑÖÜáàâäãåçéèêëíìîïñóòôöõúùûü†°¢£§•¶ß®©™\u00b4\u00a8≠ÆØ∞±≤≥¥\u00b5∂∑∏π∫ªºΩæø¿¡¬√ƒ≈∆«»" ++
      "\u2026\u00a0ÀÃÕŒœ–—“”‘’÷◊ÿŸĞğİıŞş‡·‚„‰ÂÊÁËÈÍÎÏÌÓÔ\uf8ffÒÚÛÙ\uf8a0\u02c6\u02dc\u00af" ++
      "\u02d8\u02d9\u02da\u00b8\u02dd\u02db\u02c7" },
  { name := "palmos"
    aliases := []
    first := 0x80
    chars :=
      "€\u0081‚ƒ„\u2026†‡\u02c6‰Š‹Œ♦♣♥♠‘’“”•–—\u02dc™š\u009bœ\u009d\u009eŸ\u00a0¡¢£¤¥¦§\u00a8©ª" ++
      "«¬\u00ad®\u00af°±²³\u00b4\u00b5¶·\u00b8¹º»¼½¾¿ÀÁÂÃÄÅÆÇÈÉÊËÌÍÎÏÐÑÒÓÔÕÖ×ØÙÚÛÜÝÞßàáâãäåæçèé" ++
      "êëìíîïðñòóôõö÷øùúûüýþÿ" },
  { name := "ptcp154"
    aliases := ["cp154", "csptcp154", "cyrillic_asian", "pt154"]
    first := 0x80
    chars :=
      "ҖҒӮғ„\u2026ҶҮҲүҠӢҢҚҺҸҗ‘’“”•–—ҳҷҡӣңқһҹ\u00a0ЎўЈӨҘҰ§Ё©Ә«¬ӯ®Ҝ°ұІіҙө¶·ё\u2116ә»јҪҫҝАБВГДЕЖЗИ" ++
      "ЙКЛМНОПРСТУФХЦЧШЩЪЫЬЭЮЯабвгдежзийклмнопрстуфхцчшщъыьэюя" },
  { name := "tis_620"
    aliases := ["iso_ir_166", "tis620", "tis_620_0", "tis_620_2529_0", "tis_620_2529_1"]
    first := 0xa0
    chars :=
      "\ufffdกขฃคฅฆงจฉชซฌญฎฏฐฑฒณดตถทธนบปผฝพฟภมยรฤลฦวศษสหฬอฮฯะ\u0e31า\u0e33\u0e34\u0e35\u0e36" ++
      "\u0e37\u0e38\u0e39\u0e3a\ufffd\ufffd\ufffd\ufffd฿เแโใไๅ\u0e46\u0e47\u0e48\u0e49\u0e4a" ++
      "\u0e4b\u0e4c\u0e4d\u0e4e๏๐๑๒๓๔๕๖๗๘๙๚๛\ufffd\ufffd\ufffd\ufffd" }]

end SchemaAudit.Text
