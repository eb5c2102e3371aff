import BuildController.Text.Blank
import BuildController.Text.Invisible

/-! The characters of internationalised domains. Most characters stand for themselves, some for other
characters, such as capital letters for small ones, and some for nothing; the rest cannot occur. -/
namespace BuildController.Url.Domain

open BuildController.Text

/-- Code points that stand for other characters. A row holds the first code point, the distance
from each to the next, and between spaces what each stands for. -/
def mappedRows : List (Nat × Nat × String) :=
  [(0xAA, 1, "a"), (0xB2, 1, "2 3"), (0xB5, 1, "μ"), (0xB9, 1, "1 o"),
    (0xBC, 2, "1⁄4 3⁄4 à â ä æ è ê ì î ð ò ô ö ø ú ü þ"), (0xBD, 1, "1⁄2"),
    (0xC1, 2, "á ã å ç é ë í ï ñ ó õ"), (0xD9, 2, "ù û ý"),
    (0x100, 2, "ā ă ą ć ĉ ċ č ď đ ē ĕ ė ę ě ĝ ğ ġ ģ ĥ ħ ĩ ī ĭ į i̇ ij ĵ ķ"), (0x133, 1, "ij"),
    (0x139, 2, "ĺ ļ ľ l· ł ń ņ ň ʼn"), (0x140, 1, "l·"),
    (0x14A, 2, "ŋ ō ŏ ő œ ŕ ŗ ř ś ŝ ş š ţ ť ŧ ũ ū ŭ ů ű ų ŵ ŷ ÿ"), (0x179, 2, "ź ż ž s ɓ"),
    (0x182, 2, "ƃ ƅ ɔ"), (0x187, 2, "ƈ ɖ ƌ"), (0x18A, 1, "ɗ"), (0x18E, 1, "ǝ ə ɛ ƒ"),
    (0x193, 1, "ɠ ɣ"), (0x196, 1, "ɩ ɨ ƙ"), (0x19C, 1, "ɯ ɲ"), (0x19F, 1, "ɵ ơ"),
    (0x1A2, 2, "ƣ ƥ ʀ"), (0x1A7, 2, "ƨ ʃ"), (0x1AC, 2, "ƭ ʈ"), (0x1AF, 2, "ư ʊ ƴ ƶ ʒ"),
    (0x1B2, 1, "ʋ"), (0x1B8, 1, "ƹ"), (0x1BC, 1, "ƽ"), (0x1C4, 1, "dž dž dž lj lj lj nj nj nj ǎ"),
    (0x1CF, 2, "ǐ ǒ ǔ ǖ ǘ ǚ ǜ"), (0x1DE, 2, "ǟ ǡ ǣ ǥ ǧ ǩ ǫ ǭ ǯ"), (0x1F1, 1, "dz dz dz ǵ"),
    (0x1F6, 2, "ƕ ǹ ǻ ǽ ǿ ȁ ȃ ȅ ȇ ȉ ȋ ȍ ȏ ȑ ȓ ȕ ȗ ș ț ȝ ȟ ƞ ȣ ȥ ȧ ȩ ȫ ȭ ȯ ȱ ȳ"), (0x1F7, 1, "ƿ"),
    (0x23A, 1, "ⱥ ȼ"), (0x23D, 1, "ƚ ⱦ"), (0x241, 2, "ɂ ƀ ʌ"), (0x244, 2, "ʉ ɇ ɉ ɋ ɍ ɏ"),
    (0x2B0, 1, "h ɦ j r ɹ ɻ ʁ w y"), (0x2E0, 1, "ɣ l s x ʕ"), (0x340, 1, "̀ ́"),
    (0x343, 1, "̓ ̈́ ι"), (0x370, 2, "ͱ ͳ ʹ ͷ"), (0x37E, 1, "; ϳ"), (0x386, 1, "ά · έ ή ί"),
    (0x38C, 2, "ό ύ"), (0x38F, 2, "ώ α γ ε η ι λ ν ο ρ σ υ χ ω ϋ"), (0x392, 2, "β δ ζ θ κ μ ξ π"),
    (0x3A4, 2, "τ φ ψ ϊ"), (0x3CF, 1, "ϗ β θ υ ύ ϋ φ π"),
    (0x3D8, 2, "ϙ ϛ ϝ ϟ ϡ ϣ ϥ ϧ ϩ ϫ ϭ ϯ κ σ θ"), (0x3F1, 1, "ρ"), (0x3F5, 2, "ε ϸ σ"),
    (0x3FA, 1, "ϻ"),
    (0x3FD, 1, "ͻ ͼ ͽ ѐ ё ђ ѓ є ѕ і ї ј љ њ ћ ќ ѝ ў џ а б в г д е ж з и й к л м н о п р с т"),
    (0x423, 1, "у ф х ц ч ш щ ъ ы ь э ю я"), (0x460, 2, "ѡ ѣ ѥ ѧ ѩ ѫ ѭ ѯ ѱ ѳ ѵ ѷ ѹ ѻ ѽ ѿ ҁ"),
    (0x48A, 2, "ҋ ҍ ҏ ґ ғ ҕ җ ҙ қ ҝ ҟ ҡ ң ҥ ҧ ҩ ҫ ҭ ү ұ ҳ ҵ ҷ ҹ һ ҽ ҿ ӏ"),
    (0x4C1, 2, "ӂ ӄ ӆ ӈ ӊ ӌ ӎ"),
    (0x4D0, 2, "ӑ ӓ ӕ ӗ ә ӛ ӝ ӟ ӡ ӣ ӥ ӧ ө ӫ ӭ ӯ ӱ ӳ ӵ ӷ ӹ ӻ ӽ ӿ ԁ ԃ ԅ ԇ ԉ ԋ ԍ ԏ ԑ ԓ ԕ ԗ ԙ ԛ"),
    (0x51C, 2, "ԝ ԟ ԡ ԣ ԥ ԧ ԩ ԫ ԭ ԯ"),
    (0x531, 1, "ա բ գ դ ե զ է ը թ ժ ի լ խ ծ կ հ ձ ղ ճ մ յ ն շ ո չ պ ջ ռ ս վ տ ր ց ւ փ ք օ ֆ"),
    (0x587, 1, "եւ"), (0x675, 1, "اٴ وٴ ۇٴ يٴ"), (0x958, 1, "क़ ख़ ग़ ज़ ड़ ढ़ फ़ य़"),
    (0x9DC, 1, "ড় ঢ়"), (0x9DF, 1, "য়"), (0xA33, 1, "ਲ਼"), (0xA36, 1, "ਸ਼"),
    (0xA59, 1, "ਖ਼ ਗ਼ ਜ਼"), (0xA5E, 1, "ਫ਼"), (0xB5C, 1, "ଡ଼ ଢ଼"), (0xE33, 1, "ํา"),
    (0xEB3, 1, "ໍາ"), (0xEDC, 1, "ຫນ ຫມ"), (0xF0C, 1, "་"), (0xF43, 1, "གྷ"), (0xF4D, 1, "ཌྷ"),
    (0xF52, 1, "དྷ"), (0xF57, 1, "བྷ"), (0xF5C, 1, "ཛྷ"), (0xF69, 1, "ཀྵ"),
    (0xF73, 2, "ཱི ཱུ ྲཱྀ ླཱྀ"), (0xF76, 2, "ྲྀ ླྀ"), (0xF81, 1, "ཱྀ"), (0xF93, 1, "ྒྷ"),
    (0xF9D, 1, "ྜྷ"), (0xFA2, 1, "ྡྷ"), (0xFA7, 1, "ྦྷ"), (0xFAC, 1, "ྫྷ"), (0xFB9, 1, "ྐྵ"),
    (0x10A0, 1, "ⴀ ⴁ ⴂ ⴃ ⴄ ⴅ ⴆ ⴇ ⴈ ⴉ ⴊ ⴋ ⴌ ⴍ ⴎ ⴏ ⴐ ⴑ ⴒ ⴓ ⴔ ⴕ ⴖ ⴗ ⴘ ⴙ ⴚ ⴛ ⴜ ⴝ ⴞ ⴟ ⴠ ⴡ ⴢ ⴣ ⴤ"),
    (0x10C5, 1, "ⴥ"), (0x10C7, 1, "ⴧ"), (0x10CD, 1, "ⴭ"), (0x10FC, 1, "ნ"),
    (0x13F8, 1, "Ᏸ Ᏹ Ᏺ Ᏻ Ᏼ Ᏽ"), (0x1C80, 1, "в д о с т т ъ ѣ ꙋ ᲊ"),
    (0x1C90, 1, "ა ბ გ დ ე ვ ზ თ ი კ ლ მ ნ ო პ ჟ რ ს ტ უ ფ ქ ღ ყ შ ჩ ც ძ წ ჭ ხ ჯ ჰ ჱ ჲ ჳ ჴ"),
    (0x1CB5, 1, "ჵ ჶ ჷ ჸ ჹ ჺ"), (0x1CBD, 1, "ჽ ჾ ჿ"),
    (0x1D2C, 2, "a b d ǝ h j l n o p t w ɐ ᴂ d ə ɜ"), (0x1D2D, 1, "æ"), (0x1D31, 2, "e g i k m"),
    (0x1D3D, 2, "ȣ r u a ɑ b e ɛ g k ŋ ɔ ᴗ t ᴝ v β δ χ r v γ φ"),
    (0x1D50, 2, "m o ᴖ p u ɯ ᴥ γ φ i u β ρ χ"), (0x1D78, 1, "н"),
    (0x1D9B, 1, "ɒ c ɕ ð ɜ f ɟ ɡ ɥ ɨ ɩ ɪ ᵻ ʝ ɭ ᶅ ʟ ɱ ɰ ɲ ɳ ɴ ɵ ɸ ʂ ʃ ƫ ʉ ʊ ᴜ ʋ ʌ z ʐ ʑ ʒ θ"),
    (0x1E00, 2, "ḁ ḃ ḅ ḇ ḉ ḋ ḍ ḏ ḑ ḓ ḕ ḗ ḙ ḛ ḝ ḟ ḡ ḣ ḥ ḧ ḩ ḫ ḭ ḯ ḱ ḳ ḵ ḷ ḹ ḻ ḽ ḿ ṁ ṃ ṅ ṇ ṉ"),
    (0x1E4A, 2, "ṋ ṍ ṏ ṑ ṓ ṕ ṗ ṙ ṛ ṝ ṟ ṡ ṣ ṥ ṧ ṩ ṫ ṭ ṯ ṱ ṳ ṵ ṷ ṹ ṻ ṽ ṿ ẁ ẃ ẅ ẇ ẉ ẋ ẍ ẏ ẑ ẓ"),
    (0x1E94, 2, "ẕ"), (0x1E9A, 1, "aʾ ṡ"),
    (0x1E9E, 2, "ß ạ ả ấ ầ ẩ ẫ ậ ắ ằ ẳ ẵ ặ ẹ ẻ ẽ ế ề ể ễ ệ ỉ ị ọ ỏ ố ồ ổ ỗ ộ ớ ờ ở ỡ ợ ụ ủ"),
    (0x1EE8, 2, "ứ ừ ử ữ ự ỳ ỵ ỷ ỹ ỻ ỽ ỿ"), (0x1F08, 1, "ἀ ἁ ἂ ἃ ἄ ἅ ἆ ἇ"),
    (0x1F18, 1, "ἐ ἑ ἒ ἓ ἔ ἕ"), (0x1F28, 1, "ἠ ἡ ἢ ἣ ἤ ἥ ἦ ἧ"), (0x1F38, 1, "ἰ ἱ ἲ ἳ ἴ ἵ ἶ ἷ"),
    (0x1F48, 1, "ὀ ὁ ὂ ὃ ὄ ὅ"), (0x1F59, 2, "ὑ ὓ ὕ ὗ"), (0x1F68, 1, "ὠ ὡ ὢ ὣ ὤ ὥ ὦ ὧ"),
    (0x1F71, 2, "ά έ ή ί ό ύ ώ"),
    (0x1F80, 1, "ἀι ἁι ἂι ἃι ἄι ἅι ἆι ἇι ἀι ἁι ἂι ἃι ἄι ἅι ἆι ἇι ἠι ἡι ἢι ἣι ἤι ἥι ἦι ἧι ἠι"),
    (0x1F99, 1, "ἡι ἢι ἣι ἤι ἥι ἦι ἧι ὠι ὡι ὢι ὣι ὤι ὥι ὦι ὧι ὠι ὡι ὢι ὣι ὤι ὥι ὦι ὧι"),
    (0x1FB2, 1, "ὰι αι άι"), (0x1FB7, 1, "ᾶι ᾰ ᾱ ὰ ά αι"), (0x1FBE, 1, "ι"),
    (0x1FC2, 1, "ὴι ηι ήι"), (0x1FC7, 1, "ῆι ὲ έ ὴ ή ηι"), (0x1FD3, 1, "ΐ"),
    (0x1FD8, 1, "ῐ ῑ ὶ ί"), (0x1FE3, 1, "ΰ"), (0x1FE8, 1, "ῠ ῡ ὺ ύ ῥ"), (0x1FEF, 1, "\x60"),
    (0x1FF2, 1, "ὼι ωι ώι"), (0x1FF7, 1, "ῶι ὸ ό ὼ ώ ωι"), (0x2011, 1, "‐"), (0x2033, 1, "′′ ′′′"),
    (0x2036, 1, "‵‵ ‵‵‵"), (0x203C, 1, "!!"), (0x2047, 1, "?? ?! !?"), (0x2057, 1, "′′′′"),
    (0x2070, 1, "0 i"), (0x2074, 1, "4 5 6 7 8 9 + − = ( ) n 0 1 2 3 4 5 6 7 8 9 + − = ( )"),
    (0x2090, 1, "a e o x ə h k l m n p s t"), (0x20A8, 1, "rs"), (0x2100, 1, "a/c a/s c °c"),
    (0x2105, 2, "c/o ɛ °f h h ħ i l n"), (0x2106, 1, "c/u"), (0x210A, 2, "g h h i l"),
    (0x2116, 1, "no"), (0x2119, 1, "p q r r r"), (0x2120, 2, "sm tm z ω z k b"),
    (0x2121, 1, "tel"), (0x212B, 2, "å c e f m א ג i fax γ π"), (0x2130, 2, "e ⅎ o ב ד"),
    (0x213C, 2, "π γ ∑"), (0x2145, 1, "d d e i j"),
    (0x2150, 1, "1⁄7 1⁄9 1⁄10 1⁄3 2⁄3 1⁄5 2⁄5 3⁄5 4⁄5 1⁄6 5⁄6 1⁄8 3⁄8 5⁄8 7⁄8 1⁄ i ii iii"),
    (0x2163, 1, "iv v vi vii viii ix x xi xii l c d m i ii iii iv v vi vii viii ix x xi xii"),
    (0x217C, 1, "l c d m"), (0x2183, 1, "ↄ"), (0x2189, 1, "0⁄3"), (0x222C, 1, "∫∫ ∫∫∫"),
    (0x222F, 1, "∮∮ ∮∮∮"), (0x2329, 1, "〈 〉"),
    (0x2460, 1, "1 2 3 4 5 6 7 8 9 10 11 12 13 14 15 16 17 18 19 20 (1) (2) (3) (4) (5) (6)"),
    (0x247A, 1, "(7) (8) (9) (10) (11) (12) (13) (14) (15) (16) (17) (18) (19) (20)"),
    (0x249C, 1, "(a) (b) (c) (d) (e) (f) (g) (h) (i) (j) (k) (l) (m) (n) (o) (p) (q) (r)"),
    (0x24AE, 1, "(s) (t) (u) (v) (w) (x) (y) (z) a b c d e f g h i j k l m n o p q r s t u"),
    (0x24CB, 1, "v w x y z a b c d e f g h i j k l m n o p q r s t u v w x y z 0"),
    (0x2A0C, 1, "∫∫∫∫"), (0x2A74, 1, "::= == ==="), (0x2ADC, 1, "⫝̸"),
    (0x2C00, 1, "ⰰ ⰱ ⰲ ⰳ ⰴ ⰵ ⰶ ⰷ ⰸ ⰹ ⰺ ⰻ ⰼ ⰽ ⰾ ⰿ ⱀ ⱁ ⱂ ⱃ ⱄ ⱅ ⱆ ⱇ ⱈ ⱉ ⱊ ⱋ ⱌ ⱍ ⱎ ⱏ ⱐ ⱑ ⱒ ⱓ ⱔ"),
    (0x2C25, 1, "ⱕ ⱖ ⱗ ⱘ ⱙ ⱚ ⱛ ⱜ ⱝ ⱞ ⱟ"), (0x2C60, 2, "ⱡ ɫ ɽ"), (0x2C63, 1, "ᵽ"),
    (0x2C67, 2, "ⱨ ⱪ ⱬ ɑ ɐ"), (0x2C6E, 2, "ɱ ɒ ⱳ"), (0x2C75, 1, "ⱶ"),
    (0x2C7C, 2, "j ȿ ⲁ ⲃ ⲅ ⲇ ⲉ ⲋ ⲍ ⲏ ⲑ ⲓ ⲕ ⲗ ⲙ ⲛ ⲝ ⲟ ⲡ ⲣ ⲥ ⲧ ⲩ ⲫ ⲭ ⲯ ⲱ ⲳ ⲵ ⲷ ⲹ ⲻ ⲽ ⲿ ⳁ ⳃ ⳅ"),
    (0x2CC6, 2, "ⳇ ⳉ ⳋ ⳍ ⳏ ⳑ ⳓ ⳕ ⳗ ⳙ ⳛ ⳝ ⳟ ⳡ ⳣ"), (0x2C7D, 2, "v ɀ"), (0x2CEB, 2, "ⳬ ⳮ"),
    (0x2CF2, 1, "ⳳ"), (0x2D6F, 1, "ⵡ"), (0x2E9F, 1, "母"), (0x2EF3, 1, "龟"),
    (0x2F00, 1, "一 丨 丶 丿 乙 亅 二 亠 人 儿 入 八 冂 冖 冫 几 凵 刀 力 勹 匕 匚 匸 十 卜 卩 厂 厶 又 口 囗 土 士 夂 夊 夕 大"),
    (0x2F25, 1, "女 子 宀 寸 小 尢 尸 屮 山 巛 工 己 巾 干 幺 广 廴 廾 弋 弓 彐 彡 彳 心 戈 戶 手 支 攴 文 斗 斤 方 无 日 曰 月"),
    (0x2F4A, 1, "木 欠 止 歹 殳 毋 比 毛 氏 气 水 火 爪 父 爻 爿 片 牙 牛 犬 玄 玉 瓜 瓦 甘 生 用 田 疋 疒 癶 白 皮 皿 目 矛 矢"),
    (0x2F6F, 1, "石 示 禸 禾 穴 立 竹 米 糸 缶 网 羊 羽 老 而 耒 耳 聿 肉 臣 自 至 臼 舌 舛 舟 艮 色 艸 虍 虫 血 行 衣 襾 見 角"),
    (0x2F94, 1, "言 谷 豆 豕 豸 貝 赤 走 足 身 車 辛 辰 辵 邑 酉 釆 里 金 長 門 阜 隶 隹 雨 靑 非 面 革 韋 韭 音 頁 風 飛 食 首"),
    (0x2FB9, 1, "香 馬 骨 高 髟 鬥 鬯 鬲 鬼 魚 鳥 鹵 鹿 麥 麻 黃 黍 黑 黹 黽 鼎 鼓 鼠 鼻 齊 齒 龍 龜 龠"), (0x3002, 1, "."),
    (0x3036, 2, "〒 十 卅"), (0x3039, 1, "卄"), (0x309F, 1, "より"), (0x30FF, 1, "コト"),
    (0x3131, 1, "ᄀ ᄁ ᆪ ᄂ ᆬ ᆭ ᄃ ᄄ ᄅ ᆰ ᆱ ᆲ ᆳ ᆴ ᆵ ᄚ ᄆ ᄇ ᄈ ᄡ ᄉ ᄊ ᄋ ᄌ ᄍ ᄎ ᄏ ᄐ ᄑ ᄒ ᅡ ᅢ ᅣ ᅤ ᅥ ᅦ ᅧ"),
    (0x3156, 1, "ᅨ ᅩ ᅪ ᅫ ᅬ ᅭ ᅮ ᅯ ᅰ ᅱ ᅲ ᅳ ᅴ ᅵ"),
    (0x3165, 1, "ᄔ ᄕ ᇇ ᇈ ᇌ ᇎ ᇓ ᇗ ᇙ ᄜ ᇝ ᇟ ᄝ ᄞ ᄠ ᄢ ᄣ ᄧ ᄩ ᄫ ᄬ ᄭ ᄮ ᄯ ᄲ ᄶ ᅀ ᅇ ᅌ ᇱ ᇲ ᅗ ᅘ ᅙ ᆄ ᆅ ᆈ"),
    (0x318A, 1, "ᆑ ᆒ ᆔ ᆞ ᆡ"), (0x3192, 1, "一 二 三 四 上 中 下 甲 乙 丙 丁 天 地 人"),
    (0x3200, 2, "(ᄀ) (ᄃ) (ᄆ) (ᄉ) (ᄌ) (ᄏ) (ᄑ) (가) (다) (마) (사) (자) (카) (파) (주) (오후) (一) (三)"),
    (0x3224, 2, "(五) (七) (九) (月) (水) (金) (日) (有) (名) (財) (労) (呼) (監) (資) (祭) (自) 問 文"),
    (0x3201, 2, "(ᄂ) (ᄅ) (ᄇ) (ᄋ) (ᄎ) (ᄐ) (ᄒ) (나) (라) (바) (아) (차) (타) (하) (오전)"),
    (0x3221, 2, "(二) (四) (六) (八) (十) (火) (木) (土) (株) (社) (特) (祝) (代) (学) (企) (協) (休) (至) 幼"),
    (0x3247, 2, "箏"),
    (0x3250, 2, "pte 22 24 26 28 30 32 34 ᄀ ᄃ ᄆ ᄉ ᄌ ᄏ ᄑ 가 다 마 사 자 카 파 참고 우 一 三 五 七 九 月 水 金"),
    (0x3290, 2, "日 有 名 財 労 男 適 印 項 写 上 下 右 宗 監 資 夜 37 39 41 43 45 47 49 1月 3月 5月 7月 9月 11月"),
    (0x32CC, 2, "hg ev ア ウ オ キ ケ サ ス ソ チ テ ナ ヌ ノ ヒ ヘ マ ム モ ユ ラ ル ロ ヰ ヲ アパート アンペア イニング ウォン"),
    (0x3308, 2, "エーカー オーム カラット ガロン ギガ キュリー キロ キロメートル グラム クルゼイロ ケース コーポ サンチーム センチ ダース ドル ナノ"),
    (0x332A, 2, "ハイツ パーツ ピアストル ピコ ファラッド ブッシェル ヘクタール ペニヒ ペンス ベータ ボルト ポンド ホーン マイル マルク ミクロン"),
    (0x334A, 2, "ミリバール メガトン ヤード ユアン リラ ルーブル レントゲン 0点 2点 4点 6点 8点 10点 12点 14点 16点 18点 20点"),
    (0x336E, 2, "22点 24点 da bar pc dm2 iu 昭和 明治 pa μa ka mb cal pf μf mg hz mhz thz ml kl"),
    (0x339A, 2, "nm mm km cm2 km2 cm3 km3 m∕s2 kpa gpa rad∕s ps μs pv μv kv pw μw kw kω"),
    (0x3251, 2, "21 23 25 27 29 31 33 35 ᄂ ᄅ ᄇ ᄋ ᄎ ᄐ ᄒ 나 라 바 아 차 타 하 주의"),
    (0x3281, 2, "二 四 六 八 十 火 木 土 株 社 特 祝 秘 女 優 注 休 正 中 左 医 学 企 協 36 38 40 42 44 46 48 50 2月"),
    (0x32C3, 2, "4月 6月 8月 10月 12月 erg ltd イ エ カ ク コ シ セ タ ツ ト ニ ネ ハ フ ホ ミ メ ヤ ヨ リ レ ワ ヱ 令和"),
    (0x3301, 2, "アルファ アール インチ エスクード オンス カイリ カロリー ガンマ ギニー ギルダー キログラム キロワット グラムトン クローネ コルナ"),
    (0x331F, 2, "サイクル シリング セント デシ トン ノット パーセント バーレル ピクル ビル フィート フラン ペソ ヘルツ ページ ポイント ホン ホール"),
    (0x3343, 2, "マイクロ マッハ マンション ミリ メガ メートル ヤール リットル ルピー レム ワット 1点 3点 5点 7点 9点 11点 13点 15点"),
    (0x3369, 2, "17点 19点 21点 23点 hpa au ov dm dm3 平成 大正 株式会社 na ma kb gb kcal nf μg kg khz"),
    (0x3393, 2, "ghz μl dl fm μm cm mm2 m2 mm3 m3 m∕s pa mpa rad rad∕s2 ns ms nv mv mv nw"),
    (0x33BD, 2, "mw mw mω bq cd"), (0x33C4, 2, "cc c∕kg db ha in km lm log mb mol"),
    (0x33C9, 2, "gy hp kk kt ln lx mil ph ppm sr wb a∕m 2日 4日 6日 8日 10日 12日 14日 16日 18日 20日"),
    (0x33F5, 2, "22日 24日 26日 28日 30日 gal"),
    (0x33DA, 2, "pr sv v∕m 1日 3日 5日 7日 9日 11日 13日 15日 17日 19日 21日 23日 25日 27日 29日 31日"),
    (0xA640, 2, "ꙁ ꙃ ꙅ ꙇ ꙉ ꙋ ꙍ ꙏ ꙑ ꙓ ꙕ ꙗ ꙙ ꙛ ꙝ ꙟ ꙡ ꙣ ꙥ ꙧ ꙩ ꙫ ꙭ"),
    (0xA680, 2, "ꚁ ꚃ ꚅ ꚇ ꚉ ꚋ ꚍ ꚏ ꚑ ꚓ ꚕ ꚗ ꚙ ꚛ ъ"), (0xA69D, 1, "ь"), (0xA722, 2, "ꜣ ꜥ ꜧ ꜩ ꜫ ꜭ ꜯ"),
    (0xA732, 2, "ꜳ ꜵ ꜷ ꜹ ꜻ ꜽ ꜿ ꝁ ꝃ ꝅ ꝇ ꝉ ꝋ ꝍ ꝏ ꝑ ꝓ ꝕ ꝗ ꝙ ꝛ ꝝ ꝟ ꝡ ꝣ ꝥ ꝧ ꝩ ꝫ ꝭ ꝯ ꝯ"),
    (0xA779, 2, "ꝺ ꝼ ᵹ"), (0xA77E, 2, "ꝿ ꞁ ꞃ ꞅ ꞇ"), (0xA78B, 2, "ꞌ ɥ"), (0xA790, 2, "ꞑ ꞓ"),
    (0xA796, 2, "ꞗ ꞙ ꞛ ꞝ ꞟ ꞡ ꞣ ꞥ ꞧ ꞩ ɦ ɡ ɪ ʞ ʝ ꞵ ꞷ ꞹ ꞻ ꞽ ꞿ ꟁ ꟃ ꞔ ᶎ"), (0xA7AB, 2, "ɜ ɬ"),
    (0xA7B1, 2, "ʇ ꭓ"), (0xA7C5, 2, "ʂ ꟈ ꟊ ɤ"), (0xA7CC, 2, "ꟍ ꟏ ꟑ ꟓ ꟕ ꟗ ꟙ ꟛ ƛ"),
    (0xA7F1, 1, "s c f q ꟶ"), (0xA7F8, 1, "ħ œ"), (0xAB5C, 1, "ꜧ ꬷ ɫ ꭒ"), (0xAB69, 1, "ʍ"),
    (0xAB70, 1, "Ꭰ Ꭱ Ꭲ Ꭳ Ꭴ Ꭵ Ꭶ Ꭷ Ꭸ Ꭹ Ꭺ Ꭻ Ꭼ Ꭽ Ꭾ Ꭿ Ꮀ Ꮁ Ꮂ Ꮃ Ꮄ Ꮅ Ꮆ Ꮇ Ꮈ Ꮉ Ꮊ Ꮋ Ꮌ Ꮍ Ꮎ Ꮏ Ꮐ Ꮑ Ꮒ Ꮓ Ꮔ"),
    (0xAB95, 1, "Ꮕ Ꮖ Ꮗ Ꮘ Ꮙ Ꮚ Ꮛ Ꮜ Ꮝ Ꮞ Ꮟ Ꮠ Ꮡ Ꮢ Ꮣ Ꮤ Ꮥ Ꮦ Ꮧ Ꮨ Ꮩ Ꮪ Ꮫ Ꮬ Ꮭ Ꮮ Ꮯ Ꮰ Ꮱ Ꮲ Ꮳ Ꮴ Ꮵ Ꮶ Ꮷ Ꮸ Ꮹ"),
    (0xABBA, 1, "Ꮺ Ꮻ Ꮼ Ꮽ Ꮾ Ꮿ"),
    (0xF900, 1, "豈 更 車 賈 滑 串 句 龜 龜 契 金 喇 奈 懶 癩 羅 蘿 螺 裸 邏 樂 洛 烙 珞 落 酪 駱 亂 卵 欄 爛 蘭 鸞 嵐 濫 藍 襤"),
    (0xF925, 1, "拉 臘 蠟 廊 朗 浪 狼 郎 來 冷 勞 擄 櫓 爐 盧 老 蘆 虜 路 露 魯 鷺 碌 祿 綠 菉 錄 鹿 論 壟 弄 籠 聾 牢 磊 賂 雷"),
    (0xF94A, 1, "壘 屢 樓 淚 漏 累 縷 陋 勒 肋 凜 凌 稜 綾 菱 陵 讀 拏 樂 諾 丹 寧 怒 率 異 北 磻 便 復 不 泌 數 索 參 塞 省 葉"),
    (0xF96F, 1, "說 殺 辰 沈 拾 若 掠 略 亮 兩 凉 梁 糧 良 諒 量 勵 呂 女 廬 旅 濾 礪 閭 驪 麗 黎 力 曆 歷 轢 年 憐 戀 撚 漣 煉"),
    (0xF994, 1, "璉 秊 練 聯 輦 蓮 連 鍊 列 劣 咽 烈 裂 說 廉 念 捻 殮 簾 獵 令 囹 寧 嶺 怜 玲 瑩 羚 聆 鈴 零 靈 領 例 禮 醴 隸"),
    (0xF9B9, 1, "惡 了 僚 寮 尿 料 樂 燎 療 蓼 遼 龍 暈 阮 劉 杻 柳 流 溜 琉 留 硫 紐 類 六 戮 陸 倫 崙 淪 輪 律 慄 栗 率 隆 利"),
    (0xF9DE, 1, "吏 履 易 李 梨 泥 理 痢 罹 裏 裡 里 離 匿 溺 吝 燐 璘 藺 隣 鱗 麟 林 淋 臨 立 笠 粒 狀 炙 識 什 茶 刺 切 度 拓"),
    (0xFA03, 1, "糖 宅 洞 暴 輻 行 降 見 廓 兀 嗀"), (0xFA10, 2, "塚 晴"), (0xFA15, 1, "凞 猪 益 礼 神 祥 福 靖 精 羽"),
    (0xFA20, 2, "蘒 諸"), (0xFA25, 1, "逸 都"),
    (0xFA2A, 1, "飯 飼 館 鶴 郞 隷 侮 僧 免 勉 勤 卑 喝 嘆 器 塀 墨 層 屮 悔 慨 憎 懲 敏 既 暑 梅 海 渚 漢 煮 爫 琢 碑 社 祉 祈"),
    (0xFA4F, 1, "祐 祖 祝 禍 禎 穀 突 節 練 縉 繁 署 者 臭 艹 艹 著 褐 視 謁 謹 賓 贈 辶 逸 難 響 頻 恵 𤋮 舘"),
    (0xFA70, 1, "並 况 全 侀 充 冀 勇 勺 喝 啕 喙 嗢 塚 墳 奄 奔 婢 嬨 廒 廙 彩 徭 惘 慎 愈 憎 慠 懲 戴 揄 搜 摒 敖 晴 朗 望 杖"),
    (0xFA95, 1, "歹 殺 流 滛 滋 漢 瀞 煮 瞧 爵 犯 猪 瑱 甆 画 瘝 瘟 益 盛 直 睊 着 磌 窱 節 类 絛 練 缾 者 荒 華 蝹 襁 覆 視 調"),
    (0xFABA, 1, "諸 請 謁 諾 諭 謹 變 贈 輸 遲 醙 鉶 陼 難 靖 韛 響 頋 頻 鬒 龜 𢡊 𢡄 𣏕 㮝 䀘 䀹 𥉉 𥳐 𧻓 齃 龎"),
    (0xFB00, 1, "ff fi fl ffi ffl st st"), (0xFB13, 1, "մն մե մի վն մխ"),
    (0xFB1D, 2, "יִ ײַ א ה ל ר + שׂ שּׂ אָ בּ דּ וּ"),
    (0xFB20, 2, "ע ד כ ם ת שׁ שּׁ אַ אּ גּ הּ זּ טּ ךּ לּ מּ נּ"), (0xFB39, 2, "יּ כּ"),
    (0xFB41, 2, "סּ ףּ"),
    (0xFB44, 2, "פּ צּ רּ תּ בֿ פֿ ٱ ٻ ٻ پ پ ڀ ڀ ٺ ٺ ٿ ٿ ٹ ٹ ڤ ڤ ڦ ڦ ڄ ڄ ڃ ڃ چ چ ڇ ڇ ڍ ڌ ڎ"),
    (0xFB88, 2, "ڈ ژ ڑ ک ک گ گ ڳ ڳ ڱ ڱ ں ڻ ڻ ۀ ہ ہ ھ ھ ے ۓ"),
    (0xFB47, 2, "קּ שּ וֹ כֿ אל ٱ ٻ ٻ پ پ ڀ ڀ ٺ ٺ ٿ ٿ ٹ ٹ ڤ ڤ ڦ ڦ ڄ ڄ ڃ ڃ چ چ ڇ ڇ ڍ ڌ ڎ ڈ ژ"),
    (0xFB8D, 2, "ڑ ک ک گ گ ڳ ڳ ڱ ڱ ں ڻ ڻ ۀ ہ ہ ھ ھ ے ۓ"),
    (0xFBD3, 1, "ڭ ڭ ڭ ڭ ۇ ۇ ۆ ۆ ۈ ۈ ۇٴ ۋ ۋ ۅ ۅ ۉ ۉ ې ې ې ې ى ى ئا ئا ئە ئە ئو ئو ئۇ ئۇ ئۆ"),
    (0xFBF3, 1, "ئۆ ئۈ ئۈ ئې ئې ئې ئى ئى ئى ی ی ی ی ئج ئح ئم ئى ئي بج بح بخ بم بى بي تج تح"),
    (0xFC0D, 1, "تخ تم تى تي ثج ثم ثى ثي جح جم حج حم خج خح خم سج سح سخ سم صح صم ضج ضح ضخ ضم"),
    (0xFC26, 1, "طح طم ظم عج عم غج غم فج فح فخ فم فى في قح قم قى قي كا كج كح كخ كل كم كى كي"),
    (0xFC3F, 1, "لج لح لخ لم لى لي مج مح مخ مم مى مي نج نح نخ نم نى ني هج هم هى هي يج يح يخ"),
    (0xFC58, 1, "يم يى يي ذٰ رٰ ىٰ"),
    (0xFC64, 1, "ئر ئز ئم ئن ئى ئي بر بز بم بن بى بي تر تز تم تن تى تي ثر ثز ثم ثن ثى ثي فى"),
    (0xFC7D, 1, "في قى قي كا كل كم كى كي لم لى لي ما مم نر نز نم نن نى ني ىٰ ير يز يم ين يى"),
    (0xFC96, 1, "يي ئج ئح ئخ ئم ئه بج بح بخ بم به تج تح تخ تم ته ثم جح جم حج حم خج خم سج سح"),
    (0xFCAF, 1, "سخ سم صح صخ صم ضج ضح ضخ ضم طح ظم عج عم غج غم فج فح فخ فم قح قم كج كح كخ كل"),
    (0xFCC8, 1, "كم لج لح لخ لم له مج مح مخ مم نج نح نخ نم نه هج هم هٰ يج يح يخ يم يه ئم ئه"),
    (0xFCE1, 1, "بم به تم ته ثم ثه سم سه شم شه كل كم لم نم نه يم يه ـَّ ـُّ ـِّ طى طي عى عي"),
    (0xFCF9, 1, "غى غي سى سي شى شي حى حي جى جي خى خي صى صي ضى ضي شج شح شخ شم شر سر صر ضر طى"),
    (0xFD12, 1, "طي عى عي غى غي سى سي شى شي حى حي جى جي خى خي صى صي ضى ضي شج شح شخ شم شر سر"),
    (0xFD2B, 1, "صر ضر شج شح شخ شم سه شه طم سج سح سخ شج شح شخ طم ظم اً اً"),
    (0xFD50, 1, "تجم تحج تحج تحم تخم تمج تمح تمخ جمح جمح حمي حمى سحج سجح سجى سمح سمح سمج"),
    (0xFD62, 1, "سمم سمم صحح صحح صمم شحم شحم شجي شمخ شمخ شمم شمم ضحى ضخم ضخم طمح طمح طمم"),
    (0xFD74, 1, "طمي عجم عمم عمم عمى غمم غمي غمى فخم فخم قمح قمم لحم لحي لحى لجج لجج لخم"),
    (0xFD86, 1, "لخم لمح لمح محج محم محي مجح مجم مخج مخم"),
    (0xFD92, 1, "مجخ همج همم نحم نحى نجم نجم نجى نمي نمى يمم يمم بخي تجي تجى تخي تخى تمي"),
    (0xFDA4, 1, "تمى جمي جحى جمى سخى صحي شحي ضحي لجي لمي يحي يجي يمي ممي قمي نحي قمح لحم"),
    (0xFDB6, 1, "عمي كمي نجح مخي لجم كمم لجم نجح جحي حجي مجي فمي بحي كمم عجم صمم سخي نجي"),
    (0xFDF0, 1, "صلے قلے الله اكبر محمد صلعم رسول عليه وسلم صلى"), (0xFDFC, 1, "ریال"),
    (0xFE10, 1, ", 、"), (0xFE13, 1, ": ; ! ? 〖 〗"),
    (0xFE31, 1, "— – _ _ ( ) \x7b \x7d 〔 〕 【 】 《 》 〈 〉 「 」 『 』"), (0xFE47, 1, "[ ]"),
    (0xFE4D, 1, "_ _ _ , 、"), (0xFE54, 1, "; : ? ! — ( ) \x7b \x7d 〔 〕 # & * + - < > ="),
    (0xFE68, 1, "\\ $ % @"), (0xFE71, 1, "ـً"),
    (0xFE77, 2, "ـَ ـُ ـِ ـّ ـْ آ أ ؤ إ ئ ئ ا ب ب ة ت ت ث ث ج ج ح ح خ خ د ذ ر ز س س ش ش ص ص"),
    (0xFEBD, 2, "ض ض ط ط ظ ظ ع ع غ غ ف ف ق ق ك ك ل ل م م ن ن ه ه و ى ي ي لآ لأ لإ لا"),
    (0xFE80, 2, "ء آ أ ؤ إ ئ ئ ا ب ب ة ت ت ث ث ج ج ح ح خ خ د ذ ر ز س س ش ش ص ص ض ض ط ط ظ ظ"),
    (0xFECA, 2, "ع ع غ غ ف ف ق ق ك ك ل ل م م ن ن ه ه و ى ي ي لآ لأ لإ لا"),
    (0xFF01, 1, "! \" # $ % & ' ( ) * + , - . / 0 1 2 3 4 5 6 7 8 9 : ; < = > ? @ a b c d e"),
    (0xFF26, 1, "f g h i j k l m n o p q r s t u v w x y z [ \\ ] ^ _ \x60 a b c d e f g h"),
    (0xFF49, 1, "i j k l m n o p q r s t u v w x y z \x7b | \x7d ~ ⦅ ⦆ . 「 」 、 ・ ヲ ァ ィ ゥ ェ"),
    (0xFF6B, 1, "ォ ャ ュ ョ ッ ー ア イ ウ エ オ カ キ ク ケ コ サ シ ス セ ソ タ チ ツ テ ト ナ ニ ヌ ネ ノ ハ ヒ フ ヘ ホ マ"),
    (0xFF90, 1, "ミ ム メ モ ヤ ユ ヨ ラ リ ル レ ロ ワ ン ゙ ゚"),
    (0xFFA1, 1, "ᄀ ᄁ ᆪ ᄂ ᆬ ᆭ ᄃ ᄄ ᄅ ᆰ ᆱ ᆲ ᆳ ᆴ ᆵ ᄚ ᄆ ᄇ ᄈ ᄡ ᄉ ᄊ ᄋ ᄌ ᄍ ᄎ ᄏ ᄐ ᄑ ᄒ"),
    (0xFFC2, 1, "ᅡ ᅢ ᅣ ᅤ ᅥ ᅦ"), (0xFFCA, 1, "ᅧ ᅨ ᅩ ᅪ ᅫ ᅬ"), (0xFFD2, 1, "ᅭ ᅮ ᅯ ᅰ ᅱ ᅲ"),
    (0xFFDA, 1, "ᅳ ᅴ ᅵ"), (0xFFE0, 2, "¢ ¬ ¦ ₩ │ ↑ ↓ ○"), (0xFFE1, 1, "£"), (0xFFE5, 1, "¥"),
    (0xFFE9, 2, "← → ■"),
    (0x10400, 1, "𐐨 𐐩 𐐪 𐐫 𐐬 𐐭 𐐮 𐐯 𐐰 𐐱 𐐲 𐐳 𐐴 𐐵 𐐶 𐐷 𐐸 𐐹 𐐺 𐐻 𐐼 𐐽 𐐾 𐐿 𐑀 𐑁 𐑂 𐑃 𐑄 𐑅 𐑆 𐑇 𐑈 𐑉 𐑊 𐑋 𐑌"),
    (0x10425, 1, "𐑍 𐑎 𐑏"),
    (0x104B0, 1, "𐓘 𐓙 𐓚 𐓛 𐓜 𐓝 𐓞 𐓟 𐓠 𐓡 𐓢 𐓣 𐓤 𐓥 𐓦 𐓧 𐓨 𐓩 𐓪 𐓫 𐓬 𐓭 𐓮 𐓯 𐓰 𐓱 𐓲 𐓳 𐓴 𐓵 𐓶 𐓷 𐓸 𐓹 𐓺 𐓻"),
    (0x10570, 2, "𐖗 𐖙 𐖛 𐖝 𐖟 𐖡 𐖣 𐖥 𐖧 𐖩 𐖫 𐖭 𐖯 𐖱 𐖳 𐖵 𐖷 𐖹 𐖻"), (0x10571, 2, "𐖘 𐖚 𐖜 𐖞 𐖠"),
    (0x1057D, 2, "𐖤 𐖦 𐖨 𐖪 𐖬 𐖮 𐖰"), (0x1058D, 2, "𐖴 𐖶 𐖸"), (0x10595, 1, "𐖼"),
    (0x10781, 2, "ː æ ɓ ʣ ʥ ɖ ᶑ ɞ ɤ ɠ ħ ɧ ʪ ɬ ꞎ 𝼅 𝼆 ɶ q 𝼈 ɾ ʨ ꭧ ʈ"), (0x10782, 2, "ˑ ʙ"),
    (0x10788, 2, "ꭦ ʤ ɗ ɘ ʩ ɢ ʛ ʜ ʄ ʫ 𝼄 ɮ ʎ ø ɷ ɺ ɽ ʀ ʦ ʧ ⱱ ʏ ʢ ǀ ǂ 𝼞"), (0x107B3, 2, "ʡ ʘ ǁ 𝼊"),
    (0x10C80, 1, "𐳀 𐳁 𐳂 𐳃 𐳄 𐳅 𐳆 𐳇 𐳈 𐳉 𐳊 𐳋 𐳌 𐳍 𐳎 𐳏 𐳐 𐳑 𐳒 𐳓 𐳔 𐳕 𐳖 𐳗 𐳘 𐳙 𐳚 𐳛 𐳜 𐳝 𐳞 𐳟 𐳠 𐳡 𐳢 𐳣 𐳤"),
    (0x10CA5, 1, "𐳥 𐳦 𐳧 𐳨 𐳩 𐳪 𐳫 𐳬 𐳭 𐳮 𐳯 𐳰 𐳱 𐳲"),
    (0x10D50, 1, "𐵰 𐵱 𐵲 𐵳 𐵴 𐵵 𐵶 𐵷 𐵸 𐵹 𐵺 𐵻 𐵼 𐵽 𐵾 𐵿 𐶀 𐶁 𐶂 𐶃 𐶄 𐶅"),
    (0x118A0, 1, "𑣀 𑣁 𑣂 𑣃 𑣄 𑣅 𑣆 𑣇 𑣈 𑣉 𑣊 𑣋 𑣌 𑣍 𑣎 𑣏 𑣐 𑣑 𑣒 𑣓 𑣔 𑣕 𑣖 𑣗 𑣘 𑣙 𑣚 𑣛 𑣜 𑣝 𑣞 𑣟"),
    (0x16E40, 1, "𖹠 𖹡 𖹢 𖹣 𖹤 𖹥 𖹦 𖹧 𖹨 𖹩 𖹪 𖹫 𖹬 𖹭 𖹮 𖹯 𖹰 𖹱 𖹲 𖹳 𖹴 𖹵 𖹶 𖹷 𖹸 𖹹 𖹺 𖹻 𖹼 𖹽 𖹾 𖹿"),
    (0x16EA0, 1, "𖺻 𖺼 𖺽 𖺾 𖺿 𖻀 𖻁 𖻂 𖻃 𖻄 𖻅 𖻆 𖻇 𖻈 𖻉 𖻊 𖻋 𖻌 𖻍 𖻎 𖻏 𖻐 𖻑 𖻒 𖻓"),
    (0x1CCD6, 1, "a b c d e f g h i j k l m n o p q r s t u v w x y z 0 1 2 3 4 5 6 7 8 9"),
    (0x1D15E, 1, "𝅗𝅥 𝅘𝅥 𝅘𝅥𝅮 𝅘𝅥𝅯 𝅘𝅥𝅰 𝅘𝅥𝅱 𝅘𝅥𝅲"), (0x1D1BB, 1, "𝆹𝅥 𝆺𝅥 𝆹𝅥𝅮 𝆺𝅥𝅮 𝆹𝅥𝅯 𝆺𝅥𝅯"),
    (0x1D400, 1, "a b c d e f g h i j k l m n o p q r s t u v w x y z a b c d e f g h i j k"),
    (0x1D425, 1, "l m n o p q r s t u v w x y z a b c d e f g h i j k l m n o p q r s t u v"),
    (0x1D44A, 1, "w x y z a b c d e f g"),
    (0x1D456, 1, "i j k l m n o p q r s t u v w x y z a b c d e f g h i j k l m n o p q r s"),
    (0x1D47B, 1, "t u v w x y z a b c d e f g h i j k l m n o p q r s t u v w x y z a"),
    (0x1D49E, 1, "c d"), (0x1D4A2, 1, "g"), (0x1D4A5, 1, "j k"), (0x1D4A9, 1, "n o p q"),
    (0x1D4AE, 1, "s t u v w x y z a b c d"),
    (0x1D4BB, 2, "f h j l n p r t v x z b d f h j l n p r t v x z b d f h j l n p r t v x z"),
    (0x1D505, 2, "b d f"), (0x1D4BE, 2, "i k m"),
    (0x1D4C6, 2, "q s u w y a c e g i k m o q s u w y a c e g i k m o q s u w y a"),
    (0x1D508, 2, "e g"), (0x1D50D, 1, "j k l m n o p q"),
    (0x1D516, 2, "s u w y a c e g i k m o q s u w y a"), (0x1D517, 2, "t v x"),
    (0x1D51F, 2, "b d f h j l n p r t v x z b d f"), (0x1D53C, 2, "e g i k m o"),
    (0x1D541, 2, "j l"),
    (0x1D54A, 2, "s u w y a c e g i k m o q s u w y a c e g i k m o q s u w y a c e g i k m"),
    (0x1D594, 2, "o q s u w y a c e g i k m o q s u w y a c e g i k m o q s u w y a c e g i"),
    (0x1D5DE, 2, "k m o q s u w y a c e g i k m o q s u w y a c e g i k m o q s u w y a c e"),
    (0x1D628, 2, "g i k m o q s u w y a c e g i k m o q s u w y a c e g i k m o q s u w y a"),
    (0x1D672, 2, "c e g i k m o q s u w y a c e g i k m o q s u w y ı"), (0x1D54B, 2, "t v x"),
    (0x1D553, 2, "b d f h j l n p r t v x z b d f h j l n p r t v x z b d f h j l n p r t v"),
    (0x1D59D, 2, "x z b d f h j l n p r t v x z b d f h j l n p r t v x z b d f h j l n p r"),
    (0x1D5E7, 2, "t v x z b d f h j l n p r t v x z b d f h j l n p r t v x z b d f h j l n"),
    (0x1D631, 2, "p r t v x z b d f h j l n p r t v x z b d f h j l n p r t v x z b d f h j"),
    (0x1D67B, 2, "l n p r t v x z b d f h j l n p r t v x z ȷ"),
    (0x1D6A8, 1, "α β γ δ ε ζ η θ ι κ λ μ ν ξ ο π ρ θ σ τ υ φ χ ψ ω ∇ α β γ δ ε ζ η θ ι κ λ"),
    (0x1D6CD, 1, "μ ν ξ ο π ρ σ σ τ υ φ χ ψ ω ∂ ε θ κ φ ρ π α β γ δ ε ζ η θ ι κ λ μ ν ξ ο π"),
    (0x1D6F2, 1, "ρ θ σ τ υ φ χ ψ ω ∇ α β γ δ ε ζ η θ ι κ λ μ ν ξ ο π ρ σ σ τ υ φ χ ψ ω ∂ ε"),
    (0x1D717, 1, "θ κ φ ρ π α β γ δ ε ζ η θ ι κ λ μ ν ξ ο π ρ θ σ τ υ φ χ ψ ω ∇ α β γ δ ε ζ"),
    (0x1D73C, 1, "η θ ι κ λ μ ν ξ ο π ρ σ σ τ υ φ χ ψ ω ∂ ε θ κ φ ρ π α β γ δ ε ζ η θ ι κ λ"),
    (0x1D761, 1, "μ ν ξ ο π ρ θ σ τ υ φ χ ψ ω ∇ α β γ δ ε ζ η θ ι κ λ μ ν ξ ο π ρ σ σ τ υ φ"),
    (0x1D786, 1, "χ ψ ω ∂ ε θ κ φ ρ π α β γ δ ε ζ η θ ι κ λ μ ν ξ ο π ρ θ σ τ υ φ χ ψ ω ∇ α"),
    (0x1D7AB, 1, "β γ δ ε ζ η θ ι κ λ μ ν ξ ο π ρ σ σ τ υ φ χ ψ ω ∂ ε θ κ φ ρ π ϝ ϝ"),
    (0x1D7CE, 1, "0 1 2 3 4 5 6 7 8 9 0 1 2 3 4 5 6 7 8 9 0 1 2 3 4 5 6 7 8 9 0 1 2 3 4 5 6"),
    (0x1D7F3, 1, "7 8 9 0 1 2 3 4 5 6 7 8 9"),
    (0x1E030, 1, "а б в г д е ж з и к л м о п р с т у ф х ц ч ш ы э ю ꚉ ә і ј ө ү ӏ а б в г"),
    (0x1E055, 1, "д е ж з и к л о п с у ф х ц ч ш ъ ы ґ і ѕ џ ҫ ꙑ ұ"),
    (0x1E900, 1, "𞤢 𞤣 𞤤 𞤥 𞤦 𞤧 𞤨 𞤩 𞤪 𞤫 𞤬 𞤭 𞤮 𞤯 𞤰 𞤱 𞤲 𞤳 𞤴 𞤵 𞤶 𞤷 𞤸 𞤹 𞤺 𞤻 𞤼 𞤽 𞤾 𞤿 𞥀 𞥁 𞥂 𞥃"),
    (0x1EE00, 1, "ا ب ج د"), (0x1EE05, 1, "و ز ح ط ي ك ل م ن س ع ف ص ق ر ش ت ث خ ذ ض ظ غ ٮ ں ڡ ٯ"),
    (0x1EE21, 1, "ب ج"), (0x1EE24, 1, "ه"), (0x1EE27, 2, "ح ي ل ن ع ص"),
    (0x1EE2A, 2, "ك م س ف ق ش ث"), (0x1EE35, 2, "ت خ ض غ"), (0x1EE42, 1, "ج"),
    (0x1EE47, 2, "ح ي ل ن ع ص"), (0x1EE4E, 1, "س"), (0x1EE52, 2, "ق ش"),
    (0x1EE57, 2, "خ ض غ ں ٯ ب"), (0x1EE62, 2, "ج ه"), (0x1EE67, 1, "ح ط ي ك"),
    (0x1EE6C, 1, "م ن س ع ف ص ق"), (0x1EE74, 1, "ش ت ث خ"), (0x1EE79, 1, "ض ظ غ ٮ"),
    (0x1EE7E, 2, "ڡ ا ج ه ز ط"), (0x1EE81, 2, "ب د و ح ي ل ن ع ص ر ت خ ض غ"),
    (0x1EE8C, 2, "م س ف ق ش ث ذ ظ"), (0x1EEA1, 2, "ب د و ح ي ل ن ع ص ر ت خ ض غ"),
    (0x1EEA2, 1, "ج"), (0x1EEA6, 2, "ز ط"), (0x1EEAC, 2, "م س ف ق ش ث ذ ظ"),
    (0x1F101, 1, "0, 1, 2, 3, 4, 5, 6, 7, 8, 9,"),
    (0x1F110, 2, "(a) (c) (e) (g) (i) (k) (m) (o) (q) (s) (u) (w) (y) 〔s〕 r wz a c e g i k"),
    (0x1F13C, 2, "m o q s u w y hv sd ppv"),
    (0x1F111, 2, "(b) (d) (f) (h) (j) (l) (n) (p) (r) (t) (v) (x) (z) c cd"),
    (0x1F131, 2, "b d f h j l n p r t v x z mv ss wc"), (0x1F16A, 1, "mc md mr"),
    (0x1F190, 1, "dj"), (0x1F200, 1, "ほか ココ サ"),
    (0x1F210, 1, "手 字 双 デ 二 多 解 天 交 映 無 料 前 後 再 新 初 終 生 販 声 吹 演 投 捕 一 三 遊 左 中 右 指 走 打 禁 空 合"),
    (0x1F235, 1, "満 有 月 申 割 営 配"), (0x1F240, 1, "〔本〕 〔三〕 〔二〕 〔安〕 〔点〕 〔打〕 〔盗〕 〔勝〕 〔敗〕"),
    (0x1F250, 1, "得 可"), (0x1FBF0, 1, "0 1 2 3 4 5 6 7 8 9"),
    (0x2F800, 1, "丽 丸 乁 𠄢 你 侮 侻 倂 偺 備 僧 像 㒞 𠘺 免 兔 兤 具 𠔜 㒹 內 再 𠕋 冗 冤 仌 冬 况 𩇟 凵 刃 㓟 刻 剆 割 剷 㔕"),
    (0x2F825, 1, "勇 勉 勤 勺 包 匆 北 卉 卑 博 即 卽 卿 卿 卿 𠨬 灰 及 叟 𠭣 叫 叱 吆 咞 吸 呈 周 咢 哶 唐 啓 啣 善 善 喙 喫 喳"),
    (0x2F84A, 1, "嗂 圖 嘆 圗 噑 噴 切 壮 城 埴 堍 型 堲 報 墬 𡓤 売 壷 夆 多 夢 奢 𡚨 𡛪 姬 娛 娧 姘 婦 㛮 㛼 嬈 嬾 嬾 𡧈 寃 寘"),
    (0x2F86F, 1, "寧 寳 𡬘 寿 将 当 尢 㞁 屠 屮 峀 岍 𡷤 嵃 𡷦 嵮 嵫 嵼 巡 巢 㠯 巽 帨 帽 幩 㡢 𢆃 㡼 庰 庳 庶 廊 𪎒 廾 𢌱 𢌱 舁"),
    (0x2F894, 1, "弢 弢 㣇 𣊸 𦇚 形 彫 㣣 徚 忍 志 忹 悁 㤺 㤜 悔 𢛔 惇 慈 慌 慎 慌 慺 憎 憲 憤 憯 懞 懲 懶 成 戛 扝 抱 拔 捐 𢬌"),
    (0x2F8B9, 1, "挽 拼 捨 掃 揤 𢯱 搢 揅 掩 㨮 摩 摾 撝 摷 㩬 敏 敬 𣀊 旣 書 晉 㬙 暑 㬈 㫤 冒 冕 最 暜 肭 䏙 朗 望 朡 杞 杓 𣏃"),
    (0x2F8DE, 1, "㭉 柺 枅 桒 梅 𣑭 梎 栟 椔 㮝 楂 榣 槪 檨 𣚣 櫛 㰘 次 𣢧 歔 㱎 歲 殟 殺 殻 𣪍 𡴋 𣫺 汎 𣲼 沿 泍 汧 洖 派 海 流"),
    (0x2F903, 1, "浩 浸 涅 𣴞 洴 港 湮 㴳 滋 滇 𣻑 淹 潮 𣽞 𣾎 濆 瀹 瀞 瀛 㶖 灊 災 灷 炭 𠔥 煅 𤉣 熜 𤎫 爨 爵 牐 𤘈 犀 犕 𤜵 𤠔"),
    (0x2F928, 1, "獺 王 㺬 玥 㺸 㺸 瑇 瑜 瑱 璅 瓊 㼛 甤 𤰶 甾 𤲒 異 𢆟 瘐 𤾡 𤾸 𥁄 㿼 䀈 直 𥃳 𥃲 𥄙 𥄳 眞 真 真 睊 䀹 瞋 䁆 䂖"),
    (0x2F94D, 1, "𥐝 硎 碌 磌 䃣 𥘦 祖 𥚚 𥛅 福 秫 䄯 穀 穊 穏 𥥼 𥪧 𥪧 竮 䈂 𥮫 篆 築 䈧 𥲀 糒 䊠 糨 糣 紀 𥾆 絣 䌁 緇 縂 繅 䌴"),
    (0x2F972, 1, "𦈨 𦉇 䍙 𦋙 罺 𦌾 羕 翺 者 𦓚 𦔣 聠 𦖨 聰 𣍟 䏕 育 脃 䐋 脾 媵 𦞧 𦞵 𣎓 𣎜 舁 舄 辞 䑫 芑 芋 芝 劳 花 芳 芽 苦"),
    (0x2F997, 1, "𦬼 若 茝 荣 莭 茣 莽 菧 著 荓 菊 菌 菜 𦰶 𦵫 𦳕 䔫 蓱 蓳 蔖 𧏊 蕤 𦼬 䕝 䕡 𦾱 𧃒 䕫 虐 虜 虧 虩 蚩 蚈 蜎 蛢 蝹"),
    (0x2F9BC, 1, "蜨 蝫 螆 䗗 蟡 蠁 䗹 衠 衣 𧙧 裗 裞 䘵 裺 㒻 𧢮 𧥦 䚾 䛇 誠 諭 變 豕 𧲨 貫 賁 贛 起 𧼯 𠠄 跋 趼 跰 𠣞 軔 輸 𨗒"),
    (0x2F9E1, 1, "𨗭 邔 郱 鄑 𨜮 鄛 鈸 鋗 鋘 鉼 鏹 鐕 𨯺 開 䦕 閷 𨵷 䧦 雃 嶲 霣 𩅅 𩈚 䩮 䩶 韠 𩐊 䪲 𩒖 頋 頋 頩 𩖶 飢 䬳 餩 馧"),
    (0x2FA06, 1, "駂 駾 䯎 𩬰 鬒 鱀 鳽 䳎 䳭 鵧 𪃎 䳸 𪄅 𪈎 𪊑 麻 䵖 黹 黾 鼅 鼏 鼖 鼻 𪘀")]

/-- Code points that stand for nothing. -/
def ignoredRanges : List (Nat × Nat) :=
  [(0xAD, 0xAD), (0x34F, 0x34F), (0x115F, 0x1160), (0x17B4, 0x17B5), (0x180B, 0x180F),
    (0x200B, 0x200B), (0x2060, 0x2064), (0x206A, 0x206F), (0x3164, 0x3164), (0xFE00, 0xFE0F),
    (0xFEFF, 0xFEFF), (0xFFA0, 0xFFA0), (0x1BCA0, 0x1BCA3), (0x1D173, 0x1D17A), (0xE0100, 0xE01EF)]

/-- Visible characters that cannot occur, such as accents that stand for themselves after a space. -/
def refusedRanges : List (Nat × Nat) :=
  [(0xA8, 0xA8), (0xAF, 0xAF), (0xB4, 0xB4), (0xB8, 0xB8), (0x2D8, 0x2DD), (0x37A, 0x37A),
    (0x384, 0x385), (0x1FBD, 0x1FBD), (0x1FBF, 0x1FC1), (0x1FCD, 0x1FCF), (0x1FDD, 0x1FDF),
    (0x1FED, 0x1FEE), (0x1FFD, 0x1FFE), (0x2017, 0x2017), (0x2024, 0x2026), (0x203E, 0x203E),
    (0x2488, 0x249B), (0x2FF0, 0x2FFF), (0x309B, 0x309C), (0x31EF, 0x31EF), (0x33C2, 0x33C2),
    (0x33C7, 0x33C7), (0x33D8, 0x33D8), (0xFC5E, 0xFC63), (0xFDFA, 0xFDFB), (0xFE12, 0xFE12),
    (0xFE19, 0xFE19), (0xFE30, 0xFE30), (0xFE49, 0xFE4C), (0xFE52, 0xFE52), (0xFE70, 0xFE70),
    (0xFE72, 0xFE72), (0xFE74, 0xFE74), (0xFE76, 0xFE76), (0xFE78, 0xFE78), (0xFE7A, 0xFE7A),
    (0xFE7C, 0xFE7C), (0xFE7E, 0xFE7E), (0xFFE3, 0xFFE3), (0xFFFC, 0xFFFD), (0x1F100, 0x1F100)]

/-- The characters that join their neighbours or keep them apart. -/
def isJoiner (c : Char) : Bool := c = '\u200c' || c = '\u200d'

def entry? (row : Nat × Nat × String) (n : Nat) : Option (List Char) :=
  if row.1 ≤ n && (n - row.1) % row.2.1 = 0 then
    (splitAt ' ' row.2.2.toList)[(n - row.1) / row.2.1]?
  else none

def meaning? (c : Char) : Option (List Char) :=
  if c.toNat < 0x80 then some [c.toLower]
  else
    match mappedRows.findSome? fun row => entry? row c.toNat with
    | some cs => some cs
    | none =>
      if inRanges ignoredRanges c then some []
      else if inRanges refusedRanges c || (isInvisible c && !isJoiner c) then none
      else some [c]

end BuildController.Url.Domain
