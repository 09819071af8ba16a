import ViewModel.Text.Ranges

/-!
Names in their normal form NFKC: letters that only look another way are written plainly, marks stand
in a fixed order, and a letter and its mark are one character where there is one for both.
-/

namespace ViewModel.Text

/-- The first and the last code point of each block and what is written for the characters in
between, with blanks between; nothing stands for a character that stays. -/
def plainBlocks : List (Nat × Nat × List String) :=
  [(0xAA, 0xAA, ["a"]),
   (0xB5, 0xBA, ["μ     o"]),
   (0x132, 0x133, ["IJ ij"]),
   (0x13F, 0x140, ["L· l·"]),
   (0x149, 0x149, ["ʼn"]),
   (0x17F, 0x17F, ["s"]),
   (0x1C4, 0x1CC, ["DŽ Dž dž LJ Lj lj NJ Nj nj"]),
   (0x1F1, 0x1F3, ["DZ Dz dz"]),
   (0x2B0, 0x2B8, ["h ɦ j r ɹ ɻ ʁ w y"]),
   (0x2E0, 0x2E4, ["ɣ l s x ʕ"]),
   (0x340, 0x344, ["̀ ́  ̓ ̈́"]),
   (0x374, 0x374, ["ʹ"]),
   (0x387, 0x387, ["·"]),
   (0x3D0, 0x3D6, ["β θ Υ Ύ Ϋ φ π"]),
   (0x3F0, 0x3F9, ["κ ρ ς  Θ ε    Σ"]),
   (0x587, 0x587, ["եւ"]),
   (0x675, 0x678, ["اٴ وٴ ۇٴ يٴ"]),
   (0x958, 0x95F, ["क़ ख़ ग़ ज़ ड़ ढ़ फ़ य़"]),
   (0x9DC, 0x9DF, ["ড় ঢ়  য়"]),
   (0xA33, 0xA36, ["ਲ਼   ਸ਼"]),
   (0xA59, 0xA5E, ["ਖ਼ ਗ਼ ਜ਼   ਫ਼"]),
   (0xB5C, 0xB5D, ["ଡ଼ ଢ଼"]),
   (0xE33, 0xE33, ["ํา"]),
   (0xEB3, 0xEB3, ["ໍາ"]),
   (0xEDC, 0xEDD, ["ຫນ ຫມ"]),
   (0xF43, 0xF43, ["གྷ"]),
   (0xF4D, 0xF5C, ["ཌྷ     དྷ     བྷ     ཛྷ"]),
   (0xF69, 0xF69, ["ཀྵ"]),
   (0xF73, 0xF81, ["ཱི  ཱུ ྲྀ ྲཱྀ ླྀ ླཱྀ        ཱྀ"]),
   (0xF93, 0xF93, ["ྒྷ"]),
   (0xF9D, 0xFAC, ["ྜྷ     ྡྷ     ྦྷ     ྫྷ"]),
   (0xFB9, 0xFB9, ["ྐྵ"]),
   (0x10FC, 0x10FC, ["ნ"]),
   (0x1D2C, 0x1D6A, ["A Æ B  D E Ǝ G H I J K L M N  O Ȣ P R T U W a ɐ ɑ ᴂ b d e ə ɛ ɜ g  k m ŋ ",
     "o ɔ ᴖ ᴗ p t u ᴝ ɯ v ᴥ β γ δ φ χ i r u v β γ ρ φ χ"]),
   (0x1D78, 0x1D78, ["н"]),
   (0x1D9B, 0x1DBF, ["ɒ c ɕ ð ɜ f ɟ ɡ ɥ ɨ ɩ ɪ ᵻ ʝ ɭ ᶅ ʟ ɱ ɰ ɲ ɳ ɴ ɵ ɸ ʂ ʃ ƫ ʉ ʊ ᴜ ʋ ʌ z ʐ ʑ ʒ θ"]),
   (0x1E9A, 0x1E9B, ["aʾ ṡ"]),
   (0x1F71, 0x1F7D, ["ά  έ  ή  ί  ό  ύ  ώ"]),
   (0x1FBB, 0x1FBE, ["Ά   ι"]),
   (0x1FC9, 0x1FEB, ["Έ  Ή        ΐ        Ί        ΰ        Ύ"]),
   (0x1FF9, 0x1FFB, ["Ό  Ώ"]),
   (0x2071, 0x2071, ["i"]),
   (0x207F, 0x207F, ["n"]),
   (0x2090, 0x209C, ["a e o x ə h k l m n p s t"]),
   (0x2102, 0x2149, ["C     Ɛ   g H H H h ħ I I L l  N    P Q R R R       Z  Ω  Z  K Å B C  e E ",
     "F  M o א ב ג ד i   π γ Γ Π      D d e i j"]),
   (0x2160, 0x217F, ["I II III IV V VI VII VIII IX X XI XII L C D M i ii iii iv v vi vii viii ",
     "ix x xi xii l c d m"]),
   (0x2C7C, 0x2C7D, ["j V"]),
   (0x2D6F, 0x2D6F, ["ⵡ"]),
   (0x3038, 0x303A, ["十 卄 卅"]),
   (0x309F, 0x309F, ["より"]),
   (0x30FF, 0x30FF, ["コト"]),
   (0x3131, 0x318E, ["ᄀ ᄁ ᆪ ᄂ ᆬ ᆭ ᄃ ᄄ ᄅ ᆰ ᆱ ᆲ ᆳ ᆴ ᆵ ᄚ ᄆ ᄇ ᄈ ᄡ ᄉ ᄊ ᄋ ᄌ ᄍ ᄎ ᄏ ᄐ ᄑ ᄒ ᅡ ᅢ ᅣ ᅤ ᅥ ᅦ ᅧ ",
     "ᅨ ᅩ ᅪ ᅫ ᅬ ᅭ ᅮ ᅯ ᅰ ᅱ ᅲ ᅳ ᅴ ᅵ ᅠ ᄔ ᄕ ᇇ ᇈ ᇌ ᇎ ᇓ ᇗ ᇙ ᄜ ᇝ ᇟ ᄝ ᄞ ᄠ ᄢ ᄣ ᄧ ᄩ ᄫ ᄬ ᄭ ᄮ ᄯ ᄲ ᄶ ᅀ ᅇ ᅌ ᇱ ",
     "ᇲ ᅗ ᅘ ᅙ ᆄ ᆅ ᆈ ᆑ ᆒ ᆔ ᆞ ᆡ"]),
   (0xA69C, 0xA69D, ["ъ ь"]),
   (0xA770, 0xA770, ["ꝯ"]),
   (0xA7F2, 0xA7F9, ["C F Q    Ħ œ"]),
   (0xAB5C, 0xAB5F, ["ꜧ ꬷ ɫ ꭒ"]),
   (0xAB69, 0xAB69, ["ʍ"]),
   (0xF900, 0xFAD9, ["豈 更 車 賈 滑 串 句 龜 龜 契 金 喇 奈 懶 癩 羅 蘿 螺 裸 邏 樂 洛 烙 珞 落 酪 駱 亂 卵 欄 爛 蘭 鸞 嵐 濫 藍 襤 ",
     "拉 臘 蠟 廊 朗 浪 狼 郎 來 冷 勞 擄 櫓 爐 盧 老 蘆 虜 路 露 魯 鷺 碌 祿 綠 菉 錄 鹿 論 壟 弄 籠 聾 牢 磊 賂 雷 壘 屢 樓 淚 漏 累 縷 陋 ",
     "勒 肋 凜 凌 稜 綾 菱 陵 讀 拏 樂 諾 丹 寧 怒 率 異 北 磻 便 復 不 泌 數 索 參 塞 省 葉 說 殺 辰 沈 拾 若 掠 略 亮 兩 凉 梁 糧 良 諒 量 ",
     "勵 呂 女 廬 旅 濾 礪 閭 驪 麗 黎 力 曆 歷 轢 年 憐 戀 撚 漣 煉 璉 秊 練 聯 輦 蓮 連 鍊 列 劣 咽 烈 裂 說 廉 念 捻 殮 簾 獵 令 囹 寧 嶺 ",
     "怜 玲 瑩 羚 聆 鈴 零 靈 領 例 禮 醴 隸 惡 了 僚 寮 尿 料 樂 燎 療 蓼 遼 龍 暈 阮 劉 杻 柳 流 溜 琉 留 硫 紐 類 六 戮 陸 倫 崙 淪 輪 律 ",
     "慄 栗 率 隆 利 吏 履 易 李 梨 泥 理 痢 罹 裏 裡 里 離 匿 溺 吝 燐 璘 藺 隣 鱗 麟 林 淋 臨 立 笠 粒 狀 炙 識 什 茶 刺 切 度 拓 糖 宅 洞 ",
     "暴 輻 行 降 見 廓 兀 嗀   塚  晴   凞 猪 益 礼 神 祥 福 靖 精 羽  蘒  諸   逸 都    飯 飼 館 鶴 郞 隷 侮 僧 免 勉 勤 卑 喝 嘆 器 ",
     "塀 墨 層 屮 悔 慨 憎 懲 敏 既 暑 梅 海 渚 漢 煮 爫 琢 碑 社 祉 祈 祐 祖 祝 禍 禎 穀 突 節 練 縉 繁 署 者 臭 艹 艹 著 褐 視 謁 謹 賓 贈 ",
     "辶 逸 難 響 頻 恵 𤋮 舘   並 况 全 侀 充 冀 勇 勺 喝 啕 喙 嗢 塚 墳 奄 奔 婢 嬨 廒 廙 彩 徭 惘 慎 愈 憎 慠 懲 戴 揄 搜 摒 敖 晴 朗 望 ",
     "杖 歹 殺 流 滛 滋 漢 瀞 煮 瞧 爵 犯 猪 瑱 甆 画 瘝 瘟 益 盛 直 睊 着 磌 窱 節 类 絛 練 缾 者 荒 華 蝹 襁 覆 視 調 諸 請 謁 諾 諭 謹 變 ",
     "贈 輸 遲 醙 鉶 陼 難 靖 韛 響 頋 頻 鬒 龜 𢡊 𢡄 𣏕 㮝 䀘 䀹 𥉉 𥳐 𧻓 齃 龎"]),
   (0xFB00, 0xFB06, ["ff fi fl ffi ffl st st"]),
   (0xFB13, 0xFBB1, ["մն մե մի վն մխ      יִ  ײַ ע א ד ה כ ל ם ר ת  שׁ שׂ שּׁ שּׂ אַ אָ אּ בּ ",
     "גּ דּ הּ וּ זּ  טּ יּ ךּ כּ לּ  מּ  נּ סּ  ףּ פּ  צּ קּ רּ שּ תּ וֹ בֿ כֿ פֿ אל ٱ ٱ ٻ ٻ ٻ ",
     "ٻ پ پ پ پ ڀ ڀ ڀ ڀ ٺ ٺ ٺ ٺ ٿ ٿ ٿ ٿ ٹ ٹ ٹ ٹ ڤ ڤ ڤ ڤ ڦ ڦ ڦ ڦ ڄ ڄ ڄ ڄ ڃ ڃ ڃ ڃ چ چ چ چ ڇ ڇ ڇ ڇ ",
     "ڍ ڍ ڌ ڌ ڎ ڎ ڈ ڈ ژ ژ ڑ ڑ ک ک ک ک گ گ گ گ ڳ ڳ ڳ ڳ ڱ ڱ ڱ ڱ ں ں ڻ ڻ ڻ ڻ ۀ ۀ ہ ہ ہ ہ ھ ھ ھ ھ ے ",
     "ے ۓ ۓ"]),
   (0xFBD3, 0xFD3D, ["ڭ ڭ ڭ ڭ ۇ ۇ ۆ ۆ ۈ ۈ ۇٴ ۋ ۋ ۅ ۅ ۉ ۉ ې ې ې ې ى ى ئا ئا ئە ئە ئو ئو ئۇ ئۇ ئۆ ",
     "ئۆ ئۈ ئۈ ئې ئې ئې ئى ئى ئى ی ی ی ی ئج ئح ئم ئى ئي بج بح بخ بم بى بي تج تح تخ تم تى تي ثج ",
     "ثم ثى ثي جح جم حج حم خج خح خم سج سح سخ سم صح صم ضج ضح ضخ ضم طح طم ظم عج عم غج غم فج فح فخ ",
     "فم فى في قح قم قى قي كا كج كح كخ كل كم كى كي لج لح لخ لم لى لي مج مح مخ مم مى مي نج نح نخ ",
     "نم نى ني هج هم هى هي يج يح يخ يم يى يي ذٰ رٰ ىٰ       ئر ئز ئم ئن ئى ئي بر بز بم بن بى بي ",
     "تر تز تم تن تى تي ثر ثز ثم ثن ثى ثي فى في قى قي كا كل كم كى كي لم لى لي ما مم نر نز نم نن ",
     "نى ني ىٰ ير يز يم ين يى يي ئج ئح ئخ ئم ئه بج بح بخ بم به تج تح تخ تم ته ثم جح جم حج حم خج ",
     "خم سج سح سخ سم صح صخ صم ضج ضح ضخ ضم طح ظم عج عم غج غم فج فح فخ فم قح قم كج كح كخ كل كم لج ",
     "لح لخ لم له مج مح مخ مم نج نح نخ نم نه هج هم هٰ يج يح يخ يم يه ئم ئه بم به تم ته ثم ثه سم ",
     "سه شم شه كل كم لم نم نه يم يه ـَّ ـُّ ـِّ طى طي عى عي غى غي سى سي شى شي حى حي جى جي خى خي ",
     "صى صي ضى ضي شج شح شخ شم شر سر صر ضر طى طي عى عي غى غي سى سي شى شي حى حي جى جي خى خي صى صي ",
     "ضى ضي شج شح شخ شم شر سر صر ضر شج شح شخ شم سه شه طم سج سح سخ شج شح شخ طم ظم اً اً"]),
   (0xFD50, 0xFDC7, ["تجم تحج تحج تحم تخم تمج تمح تمخ جمح جمح حمي حمى سحج سجح سجى سمح سمح سمج ",
     "سمم سمم صحح صحح صمم شحم شحم شجي شمخ شمخ شمم شمم ضحى ضخم ضخم طمح طمح طمم طمي عجم عمم عمم ",
     "عمى غمم غمي غمى فخم فخم قمح قمم لحم لحي لحى لجج لجج لخم لخم لمح لمح محج محم محي مجح مجم ",
     "مخج مخم   مجخ همج همم نحم نحى نجم نجم نجى نمي نمى يمم يمم بخي تجي تجى تخي تخى تمي تمى جمي ",
     "جحى جمى سخى صحي شحي ضحي لجي لمي يحي يجي يمي ممي قمي نحي قمح لحم عمي كمي نجح مخي لجم كمم ",
     "لجم نجح جحي حجي مجي فمي بحي كمم عجم صمم سخي نجي"]),
   (0xFDF0, 0xFDF9, ["صلے قلے الله اكبر محمد صلعم رسول عليه وسلم صلى"]),
   (0xFE33, 0xFE34, ["_ _"]),
   (0xFE4D, 0xFE4F, ["_ _ _"]),
   (0xFE71, 0xFEFC, ["ـً      ـَ  ـُ  ـِ  ـّ  ـْ ء آ آ أ أ ؤ ؤ إ إ ئ ئ ئ ئ ا ا ب ب ب ب ة ة ت ت ",
     "ت ت ث ث ث ث ج ج ج ج ح ح ح ح خ خ خ خ د د ذ ذ ر ر ز ز س س س س ش ش ش ش ص ص ص ص ض ض ض ض ط ط ط ",
     "ط ظ ظ ظ ظ ع ع ع ع غ غ غ غ ف ف ف ف ق ق ق ق ك ك ك ك ل ل ل ل م م م م ن ن ن ن ه ه ه ه و و ى ى ",
     "ي ي ي ي لآ لآ لأ لأ لإ لإ لا لا"]),
   (0xFF10, 0xFF5A, ["0 1 2 3 4 5 6 7 8 9        A B C D E F G H I J K L M N O P Q R S T U V W ",
     "X Y Z     _  a b c d e f g h i j k l m n o p q r s t u v w x y z"]),
   (0xFF66, 0xFFDC, ["ヲ ァ ィ ゥ ェ ォ ャ ュ ョ ッ ー ア イ ウ エ オ カ キ ク ケ コ サ シ ス セ ソ タ チ ツ テ ト ナ ニ ヌ ネ ノ ハ ",
     "ヒ フ ヘ ホ マ ミ ム メ モ ヤ ユ ヨ ラ リ ル レ ロ ワ ン ゙ ゚ ᅠ ᄀ ᄁ ᆪ ᄂ ᆬ ᆭ ᄃ ᄄ ᄅ ᆰ ᆱ ᆲ ᆳ ᆴ ᆵ ᄚ ᄆ ᄇ ᄈ ᄡ ᄉ ᄊ ᄋ ",
     "ᄌ ᄍ ᄎ ᄏ ᄐ ᄑ ᄒ    ᅡ ᅢ ᅣ ᅤ ᅥ ᅦ   ᅧ ᅨ ᅩ ᅪ ᅫ ᅬ   ᅭ ᅮ ᅯ ᅰ ᅱ ᅲ   ᅳ ᅴ ᅵ"]),
   (0x10781, 0x107BA, ["ː ˑ æ ʙ ɓ  ʣ ꭦ ʥ ʤ ɖ ɗ ᶑ ɘ ɞ ʩ ɤ ɢ ɠ ʛ ħ ʜ ɧ ʄ ʪ ʫ ɬ 𝼄 ꞎ ɮ 𝼅 ʎ 𝼆 ø ɶ ɷ ",
     "q ɺ 𝼈 ɽ ɾ ʀ ʨ ʦ ꭧ ʧ ʈ ⱱ  ʏ ʡ ʢ ʘ ǀ ǁ ǂ 𝼊 𝼞"]),
   (0x1D400, 0x1D7FF, ["A B C D E F G H I J K L M N O P Q R S T U V W X Y Z a b c d e f g h i j ",
     "k l m n o p q r s t u v w x y z A B C D E F G H I J K L M N O P Q R S T U V W X Y Z a b c ",
     "d e f g  i j k l m n o p q r s t u v w x y z A B C D E F G H I J K L M N O P Q R S T U V ",
     "W X Y Z a b c d e f g h i j k l m n o p q r s t u v w x y z A  C D   G   J K   N O P Q  S ",
     "T U V W X Y Z a b c d  f  h i j k l m n  p q r s t u v w x y z A B C D E F G H I J K L M ",
     "N O P Q R S T U V W X Y Z a b c d e f g h i j k l m n o p q r s t u v w x y z A B  D E F ",
     "G   J K L M N O P Q  S T U V W X Y  a b c d e f g h i j k l m n o p q r s t u v w x y z A ",
     "B  D E F G  I J K L M  O    S T U V W X Y  a b c d e f g h i j k l m n o p q r s t u v w ",
     "x y z A B C D E F G H I J K L M N O P Q R S T U V W X Y Z a b c d e f g h i j k l m n o p ",
     "q r s t u v w x y z A B C D E F G H I J K L M N O P Q R S T U V W X Y Z a b c d e f g h i ",
     "j k l m n o p q r s t u v w x y z A B C D E F G H I J K L M N O P Q R S T U V W X Y Z a b ",
     "c d e f g h i j k l m n o p q r s t u v w x y z A B C D E F G H I J K L M N O P Q R S T U ",
     "V W X Y Z a b c d e f g h i j k l m n o p q r s t u v w x y z A B C D E F G H I J K L M N ",
     "O P Q R S T U V W X Y Z a b c d e f g h i j k l m n o p q r s t u v w x y z A B C D E F G ",
     "H I J K L M N O P Q R S T U V W X Y Z a b c d e f g h i j k l m n o p q r s t u v w x y z ",
     "ı ȷ   Α Β Γ Δ Ε Ζ Η Θ Ι Κ Λ Μ Ν Ξ Ο Π Ρ Θ Σ Τ Υ Φ Χ Ψ Ω  α β γ δ ε ζ η θ ι κ λ μ ν ξ ο π ",
     "ρ ς σ τ υ φ χ ψ ω  ε θ κ φ ρ π Α Β Γ Δ Ε Ζ Η Θ Ι Κ Λ Μ Ν Ξ Ο Π Ρ Θ Σ Τ Υ Φ Χ Ψ Ω  α β γ δ ",
     "ε ζ η θ ι κ λ μ ν ξ ο π ρ ς σ τ υ φ χ ψ ω  ε θ κ φ ρ π Α Β Γ Δ Ε Ζ Η Θ Ι Κ Λ Μ Ν Ξ Ο Π Ρ ",
     "Θ Σ Τ Υ Φ Χ Ψ Ω  α β γ δ ε ζ η θ ι κ λ μ ν ξ ο π ρ ς σ τ υ φ χ ψ ω  ε θ κ φ ρ π Α Β Γ Δ Ε ",
     "Ζ Η Θ Ι Κ Λ Μ Ν Ξ Ο Π Ρ Θ Σ Τ Υ Φ Χ Ψ Ω  α β γ δ ε ζ η θ ι κ λ μ ν ξ ο π ρ ς σ τ υ φ χ ψ ",
     "ω  ε θ κ φ ρ π Α Β Γ Δ Ε Ζ Η Θ Ι Κ Λ Μ Ν Ξ Ο Π Ρ Θ Σ Τ Υ Φ Χ Ψ Ω  α β γ δ ε ζ η θ ι κ λ μ ",
     "ν ξ ο π ρ ς σ τ υ φ χ ψ ω  ε θ κ φ ρ π Ϝ ϝ   0 1 2 3 4 5 6 7 8 9 0 1 2 3 4 5 6 7 8 9 0 1 ",
     "2 3 4 5 6 7 8 9 0 1 2 3 4 5 6 7 8 9 0 1 2 3 4 5 6 7 8 9"]),
   (0x1EE00, 0x1EEBB, ["ا ب ج د  و ز ح ط ي ك ل م ن س ع ف ص ق ر ش ت ث خ ذ ض ظ غ ٮ ں ڡ ٯ  ب ج  ه  ",
     " ح  ي ك ل م ن س ع ف ص ق  ش ت ث خ  ض  غ       ج     ح  ي  ل  ن س ع  ص ق  ش   خ  ض  غ  ں  ٯ ",
     " ب ج  ه   ح ط ي ك  م ن س ع ف ص ق  ش ت ث خ  ض ظ غ ٮ  ڡ  ا ب ج د ه و ز ح ط ي  ل م ن س ع ف ص ",
     "ق ر ش ت ث خ ذ ض ظ غ      ب ج د  و ز ح ط ي  ل م ن س ع ف ص ق ر ش ت ث خ ذ ض ظ غ"]),
   (0x1FBF0, 0x1FBF9, ["0 1 2 3 4 5 6 7 8 9"]),
   (0x2F800, 0x2FA1D, ["丽 丸 乁 𠄢 你 侮 侻 倂 偺 備 僧 像 㒞 𠘺 免 兔 兤 具 𠔜 㒹 內 再 𠕋 冗 冤 仌 冬 况 𩇟 凵 刃 㓟 刻 剆 割 剷 ",
     "㔕 勇 勉 勤 勺 包 匆 北 卉 卑 博 即 卽 卿 卿 卿 𠨬 灰 及 叟 𠭣 叫 叱 吆 咞 吸 呈 周 咢 哶 唐 啓 啣 善 善 喙 喫 喳 嗂 圖 嘆 圗 噑 噴 切 ",
     "壮 城 埴 堍 型 堲 報 墬 𡓤 売 壷 夆 多 夢 奢 𡚨 𡛪 姬 娛 娧 姘 婦 㛮 㛼 嬈 嬾 嬾 𡧈 寃 寘 寧 寳 𡬘 寿 将 当 尢 㞁 屠 屮 峀 岍 𡷤 嵃 𡷦 ",
     "嵮 嵫 嵼 巡 巢 㠯 巽 帨 帽 幩 㡢 𢆃 㡼 庰 庳 庶 廊 𪎒 廾 𢌱 𢌱 舁 弢 弢 㣇 𣊸 𦇚 形 彫 㣣 徚 忍 志 忹 悁 㤺 㤜 悔 𢛔 惇 慈 慌 慎 慌 慺 ",
     "憎 憲 憤 憯 懞 懲 懶 成 戛 扝 抱 拔 捐 𢬌 挽 拼 捨 掃 揤 𢯱 搢 揅 掩 㨮 摩 摾 撝 摷 㩬 敏 敬 𣀊 旣 書 晉 㬙 暑 㬈 㫤 冒 冕 最 暜 肭 䏙 ",
     "朗 望 朡 杞 杓 𣏃 㭉 柺 枅 桒 梅 𣑭 梎 栟 椔 㮝 楂 榣 槪 檨 𣚣 櫛 㰘 次 𣢧 歔 㱎 歲 殟 殺 殻 𣪍 𡴋 𣫺 汎 𣲼 沿 泍 汧 洖 派 海 流 浩 浸 ",
     "涅 𣴞 洴 港 湮 㴳 滋 滇 𣻑 淹 潮 𣽞 𣾎 濆 瀹 瀞 瀛 㶖 灊 災 灷 炭 𠔥 煅 𤉣 熜 𤎫 爨 爵 牐 𤘈 犀 犕 𤜵 𤠔 獺 王 㺬 玥 㺸 㺸 瑇 瑜 瑱 璅 ",
     "瓊 㼛 甤 𤰶 甾 𤲒 異 𢆟 瘐 𤾡 𤾸 𥁄 㿼 䀈 直 𥃳 𥃲 𥄙 𥄳 眞 真 真 睊 䀹 瞋 䁆 䂖 𥐝 硎 碌 磌 䃣 𥘦 祖 𥚚 𥛅 福 秫 䄯 穀 穊 穏 𥥼 𥪧 𥪧 ",
     "竮 䈂 𥮫 篆 築 䈧 𥲀 糒 䊠 糨 糣 紀 𥾆 絣 䌁 緇 縂 繅 䌴 𦈨 𦉇 䍙 𦋙 罺 𦌾 羕 翺 者 𦓚 𦔣 聠 𦖨 聰 𣍟 䏕 育 脃 䐋 脾 媵 𦞧 𦞵 𣎓 𣎜 舁 ",
     "舄 辞 䑫 芑 芋 芝 劳 花 芳 芽 苦 𦬼 若 茝 荣 莭 茣 莽 菧 著 荓 菊 菌 菜 𦰶 𦵫 𦳕 䔫 蓱 蓳 蔖 𧏊 蕤 𦼬 䕝 䕡 𦾱 𧃒 䕫 虐 虜 虧 虩 蚩 蚈 ",
     "蜎 蛢 蝹 蜨 蝫 螆 䗗 蟡 蠁 䗹 衠 衣 𧙧 裗 裞 䘵 裺 㒻 𧢮 𧥦 䚾 䛇 誠 諭 變 豕 𧲨 貫 賁 贛 起 𧼯 𠠄 跋 趼 跰 𠣞 軔 輸 𨗒 𨗭 邔 郱 鄑 𨜮 ",
     "鄛 鈸 鋗 鋘 鉼 鏹 鐕 𨯺 開 䦕 閷 𨵷 䧦 雃 嶲 霣 𩅅 𩈚 䩮 䩶 韠 𩐊 䪲 𩒖 頋 頋 頩 𩖶 飢 䬳 餩 馧 駂 駾 䯎 𩬰 鬒 鱀 鳽 䳎 䳭 鵧 𪃎 䳸 𪄅 ",
     "𪈎 𪊑 麻 䵖 黹 黾 鼅 鼏 鼖 鼻 𪘀"])]

/-- Characters by the mark that they carry: each comes after the character without the mark. -/
def markedLetters : List (Nat × List String) :=
  [(0x300, ["AÀEÈIÌOÒUÙaàeèiìoòuùÜǛüǜNǸnǹЕЀИЍеѐиѝĒḔēḕŌṐōṑWẀwẁÂẦâầĂẰăằÊỀêềÔỒôồƠỜơờƯỪưừYỲyỳἀἂἁἃἈἊ",
     "ἉἋἐἒἑἓἘἚἙἛἠἢἡἣἨἪἩἫἰἲἱἳἸἺἹἻὀὂὁὃὈὊὉὋὐὒὑὓὙὛὠὢὡὣὨὪὩὫαὰεὲηὴιὶοὸυὺωὼΑᾺΕῈΗῊϊῒΙῚϋῢΥῪΟῸΩῺ"]),
   (0x301, ["AÁEÉIÍOÓUÚYÝaáeéiíoóuúyýCĆcćLĹlĺNŃnńRŔrŕSŚsśZŹzźÜǗüǘGǴgǵÅǺåǻÆǼæǽØǾøǿΑΆΕΈΗΉΙΊΟΌΥΎΩΏ",
     "ϊΐαάεέηήιίϋΰοόυύωώϒϓГЃКЌгѓкќÇḈçḉĒḖēḗÏḮïḯKḰkḱMḾmḿÕṌõṍŌṒōṓPṔpṕŨṸũṹWẂwẃÂẤâấĂẮăắÊẾêếÔỐôốƠỚơớƯỨ",
     "ưứἀἄἁἅἈἌἉἍἐἔἑἕἘἜἙἝἠἤἡἥἨἬἩἭἰἴἱἵἸἼἹἽὀὄὁὅὈὌὉὍὐὔὑὕὙὝὠὤὡὥὨὬὩὭ"]),
   (0x302, ["AÂEÊIÎOÔUÛaâeêiîoôuûCĈcĉGĜgĝHĤhĥJĴjĵSŜsŝWŴwŵYŶyŷZẐzẑẠẬạậẸỆẹệỌỘọộ"]),
   (0x303, ["AÃNÑOÕaãnñoõIĨiĩUŨuũVṼvṽÂẪâẫĂẴăẵEẼeẽÊỄêễÔỖôỗƠỠơỡƯỮưữYỸyỹ"]),
   (0x304, ["AĀaāEĒeēIĪiīOŌoōUŪuūÜǕüǖÄǞäǟȦǠȧǡÆǢæǣǪǬǫǭÖȪöȫÕȬõȭȮȰȯȱYȲyȳИӢиӣУӮуӯGḠgḡḶḸḷḹṚṜṛṝαᾱΑᾹιῑ",
     "ΙῙυῡΥῩ"]),
   (0x306, ["AĂaăEĔeĕGĞgğIĬiĭOŎoŏUŬuŭУЎИЙийуўЖӁжӂАӐаӑЕӖеӗȨḜȩḝẠẶạặαᾰΑᾸιῐΙῘυῠΥῨ"]),
   (0x307, ["CĊcċEĖeėGĠgġIİZŻzżAȦaȧOȮoȯBḂbḃDḊdḋFḞfḟHḢhḣMṀmṁNṄnṅPṖpṗRṘrṙSṠsṡŚṤśṥŠṦšṧṢṨṣṩTṪtṫWẆwẇ",
     "XẊxẋYẎyẏſẛ"]),
   (0x308, ["AÄEËIÏOÖUÜaäeëiïoöuüyÿYŸΙΪΥΫιϊυϋϒϔЕЁІЇеёіїАӒаӓӘӚәӛЖӜжӝЗӞзӟИӤиӥОӦоӧӨӪөӫЭӬэӭУӰуӱЧӴчӵ",
     "ЫӸыӹHḦhḧÕṎõṏŪṺūṻWẄwẅXẌxẍtẗ"]),
   (0x309, ["AẢaảÂẨâẩĂẲăẳEẺeẻÊỂêểIỈiỉOỎoỏÔỔôổƠỞơởUỦuủƯỬưửYỶyỷ"]),
   (0x30A, ["AÅaåUŮuůwẘyẙ"]),
   (0x30B, ["OŐoőUŰuűУӲуӳ"]),
   (0x30C, ["CČcčDĎdďEĚeěLĽlľNŇnňRŘrřSŠsšTŤtťZŽzžAǍaǎIǏiǐOǑoǒUǓuǔÜǙüǚGǦgǧKǨkǩƷǮʒǯjǰHȞhȟ"]),
   (0x30F, ["AȀaȁEȄeȅIȈiȉOȌoȍRȐrȑUȔuȕѴѶѵѷ"]),
   (0x311, ["AȂaȃEȆeȇIȊiȋOȎoȏRȒrȓUȖuȗ"]),
   (0x313, ["αἀΑἈεἐΕἘηἠΗἨιἰΙἸοὀΟὈυὐωὠΩὨρῤ"]),
   (0x314, ["αἁΑἉεἑΕἙηἡΗἩιἱΙἹοὁΟὉυὑΥὙωὡΩὩρῥΡῬ"]),
   (0x31B, ["OƠoơUƯuư"]),
   (0x323, ["BḄbḅDḌdḍHḤhḥKḲkḳLḶlḷMṂmṃNṆnṇRṚrṛSṢsṣTṬtṭVṾvṿWẈwẉZẒzẓAẠaạEẸeẹIỊiịOỌoọƠỢơợUỤuụƯỰưựYỴ",
     "yỵ"]),
   (0x324, ["UṲuṳ"]),
   (0x325, ["AḀaḁ"]),
   (0x326, ["SȘsșTȚtț"]),
   (0x327, ["CÇcçGĢgģKĶkķLĻlļNŅnņRŖrŗSŞsşTŢtţEȨeȩDḐdḑHḨhḩ"]),
   (0x328, ["AĄaąEĘeęIĮiįUŲuųOǪoǫ"]),
   (0x32D, ["DḒdḓEḘeḙLḼlḽNṊnṋTṰtṱUṶuṷ"]),
   (0x32E, ["HḪhḫ"]),
   (0x330, ["EḚeḛIḬiḭUṴuṵ"]),
   (0x331, ["BḆbḇDḎdḏKḴkḵLḺlḻNṈnṉRṞrṟTṮtṯZẔzẕhẖ"]),
   (0x342, ["ἀἆἁἇἈἎἉἏἠἦἡἧἨἮἩἯἰἶἱἷἸἾἹἿὐὖὑὗὙὟὠὦὡὧὨὮὩὯαᾶηῆιῖϊῗυῦϋῧωῶ"]),
   (0x345, ["ἀᾀἁᾁἂᾂἃᾃἄᾄἅᾅἆᾆἇᾇἈᾈἉᾉἊᾊἋᾋἌᾌἍᾍἎᾎἏᾏἠᾐἡᾑἢᾒἣᾓἤᾔἥᾕἦᾖἧᾗἨᾘἩᾙἪᾚἫᾛἬᾜἭᾝἮᾞἯᾟὠᾠὡᾡὢᾢὣᾣὤᾤὥᾥὦᾦὧᾧὨᾨ",
     "ὩᾩὪᾪὫᾫὬᾬὭᾭὮᾮὯᾯὰᾲαᾳάᾴᾶᾷΑᾼὴῂηῃήῄῆῇΗῌὼῲωῳώῴῶῷΩῼ"]),
   (0x653, ["اآ"]),
   (0x654, ["اأوؤيئەۀہۂےۓ"]),
   (0x655, ["اإ"]),
   (0x93C, ["नऩरऱळऴ"]),
   (0x9BE, ["েো"]),
   (0x9D7, ["েৌ"]),
   (0xB3E, ["େୋ"]),
   (0xB56, ["େୈ"]),
   (0xB57, ["େୌ"]),
   (0xBBE, ["ெொேோ"]),
   (0xBD7, ["ஒஔெௌ"]),
   (0xC56, ["ెై"]),
   (0xCC2, ["ೆೊ"]),
   (0xCD5, ["ಿೀೆೇೊೋ"]),
   (0xCD6, ["ೆೈ"]),
   (0xD3E, ["െൊേോ"]),
   (0xD57, ["െൌ"]),
   (0xDCA, ["ෙේොෝ"]),
   (0xDCF, ["ෙො"]),
   (0xDDF, ["ෙෞ"]),
   (0x102E, ["ဥဦ"]),
   (0x1B35, ["ᬅᬆᬇᬈᬉᬊᬋᬌᬍᬎᬑᬒᬺᬻᬼᬽᬾᭀᬿᭁᭂᭃ"]),
   (0x3099, ["かがきぎくぐけげこごさざしじすずせぜそぞただちぢつづてでとどはばひびふぶへべほぼうゔゝゞカガキギクグケゲコゴサザシジスズセゼソゾタダチヂツヅテデトドハバヒビフブヘベ",
     "ホボウヴワヷヰヸヱヹヲヺヽヾ"]),
   (0x309A, ["はぱひぴふぷへぺほぽハパヒピフプヘペホポ"]),
   (0x110BA, ["𑂙𑂚𑂛𑂜𑂥𑂫"]),
   (0x11127, ["𑄱𑄮𑄲𑄯"]),
   (0x1133E, ["𑍇𑍋"]),
   (0x11357, ["𑍇𑍌"]),
   (0x114B0, ["𑒹𑒼"]),
   (0x114BA, ["𑒹𑒻"]),
   (0x114BD, ["𑒹𑒾"]),
   (0x115AF, ["𑖸𑖺𑖹𑖻"]),
   (0x11930, ["𑤵𑤸"])]

/-- The classes of marks, by which marks of one letter are sorted. -/
def markClasses : List (Nat × List (Nat × Nat)) :=
  [(1, [(0x334, 0x338), (0x1CD4, 0x1CD4), (0x1CE2, 0x1CE8), (0x20D2, 0x20D3), (0x20D8, 0x20DA),
     (0x20E5, 0x20E6), (0x20EA, 0x20EB), (0x10A39, 0x10A39), (0x16AF0, 0x16AF4),
     (0x1BC9E, 0x1BC9E), (0x1D167, 0x1D169)]),
   (6, [(0x16FF0, 0x16FF1)]),
   (7, [(0x93C, 0x93C), (0x9BC, 0x9BC), (0xA3C, 0xA3C), (0xABC, 0xABC), (0xB3C, 0xB3C),
     (0xC3C, 0xC3C), (0xCBC, 0xCBC), (0x1037, 0x1037), (0x1B34, 0x1B34), (0x1BE6, 0x1BE6),
     (0x1C37, 0x1C37), (0xA9B3, 0xA9B3), (0x110BA, 0x110BA), (0x11173, 0x11173),
     (0x111CA, 0x111CA), (0x11236, 0x11236), (0x112E9, 0x112E9), (0x1133B, 0x1133C),
     (0x11446, 0x11446), (0x114C3, 0x114C3), (0x115C0, 0x115C0), (0x116B7, 0x116B7),
     (0x1183A, 0x1183A), (0x11943, 0x11943), (0x11D42, 0x11D42), (0x1E94A, 0x1E94A)]),
   (8, [(0x3099, 0x309A)]),
   (9, [(0x94D, 0x94D), (0x9CD, 0x9CD), (0xA4D, 0xA4D), (0xACD, 0xACD), (0xB4D, 0xB4D),
     (0xBCD, 0xBCD), (0xC4D, 0xC4D), (0xCCD, 0xCCD), (0xD3B, 0xD3C), (0xD4D, 0xD4D),
     (0xDCA, 0xDCA), (0xE3A, 0xE3A), (0xEBA, 0xEBA), (0xF84, 0xF84), (0x1039, 0x103A),
     (0x1714, 0x1715), (0x1734, 0x1734), (0x17D2, 0x17D2), (0x1A60, 0x1A60), (0x1B44, 0x1B44),
     (0x1BAA, 0x1BAB), (0x1BF2, 0x1BF3), (0x2D7F, 0x2D7F), (0xA806, 0xA806), (0xA82C, 0xA82C),
     (0xA8C4, 0xA8C4), (0xA953, 0xA953), (0xA9C0, 0xA9C0), (0xAAF6, 0xAAF6), (0xABED, 0xABED),
     (0x10A3F, 0x10A3F), (0x11046, 0x11046), (0x11070, 0x11070), (0x1107F, 0x1107F),
     (0x110B9, 0x110B9), (0x11133, 0x11134), (0x111C0, 0x111C0), (0x11235, 0x11235),
     (0x112EA, 0x112EA), (0x1134D, 0x1134D), (0x11442, 0x11442), (0x114C2, 0x114C2),
     (0x115BF, 0x115BF), (0x1163F, 0x1163F), (0x116B6, 0x116B6), (0x1172B, 0x1172B),
     (0x11839, 0x11839), (0x1193D, 0x1193E), (0x119E0, 0x119E0), (0x11A34, 0x11A34),
     (0x11A47, 0x11A47), (0x11A99, 0x11A99), (0x11C3F, 0x11C3F), (0x11D44, 0x11D45),
     (0x11D97, 0x11D97)]),
   (10, [(0x5B0, 0x5B0)]),
   (11, [(0x5B1, 0x5B1)]),
   (12, [(0x5B2, 0x5B2)]),
   (13, [(0x5B3, 0x5B3)]),
   (14, [(0x5B4, 0x5B4)]),
   (15, [(0x5B5, 0x5B5)]),
   (16, [(0x5B6, 0x5B6)]),
   (17, [(0x5B7, 0x5B7)]),
   (18, [(0x5B8, 0x5B8), (0x5C7, 0x5C7)]),
   (19, [(0x5B9, 0x5BA)]),
   (20, [(0x5BB, 0x5BB)]),
   (21, [(0x5BC, 0x5BC)]),
   (22, [(0x5BD, 0x5BD)]),
   (23, [(0x5BF, 0x5BF)]),
   (24, [(0x5C1, 0x5C1)]),
   (25, [(0x5C2, 0x5C2)]),
   (26, [(0xFB1E, 0xFB1E)]),
   (27, [(0x64B, 0x64B), (0x8F0, 0x8F0)]),
   (28, [(0x64C, 0x64C), (0x8F1, 0x8F1)]),
   (29, [(0x64D, 0x64D), (0x8F2, 0x8F2)]),
   (30, [(0x618, 0x618), (0x64E, 0x64E)]),
   (31, [(0x619, 0x619), (0x64F, 0x64F)]),
   (32, [(0x61A, 0x61A), (0x650, 0x650)]),
   (33, [(0x651, 0x651)]),
   (34, [(0x652, 0x652)]),
   (35, [(0x670, 0x670)]),
   (36, [(0x711, 0x711)]),
   (84, [(0xC55, 0xC55)]),
   (91, [(0xC56, 0xC56)]),
   (103, [(0xE38, 0xE39)]),
   (107, [(0xE48, 0xE4B)]),
   (118, [(0xEB8, 0xEB9)]),
   (122, [(0xEC8, 0xECB)]),
   (129, [(0xF71, 0xF71)]),
   (130, [(0xF72, 0xF72), (0xF7A, 0xF7D), (0xF80, 0xF80)]),
   (132, [(0xF74, 0xF74)]),
   (202, [(0x321, 0x322), (0x327, 0x328), (0x1DD0, 0x1DD0)]),
   (214, [(0x1DCE, 0x1DCE)]),
   (216, [(0x31B, 0x31B), (0xF39, 0xF39), (0x1D165, 0x1D166), (0x1D16E, 0x1D172)]),
   (218, [(0x1DFA, 0x1DFA), (0x302A, 0x302A)]),
   (220, [(0x316, 0x319), (0x31C, 0x320), (0x323, 0x326), (0x329, 0x333), (0x339, 0x33C),
     (0x347, 0x349), (0x34D, 0x34E), (0x353, 0x356), (0x359, 0x35A), (0x591, 0x591),
     (0x596, 0x596), (0x59B, 0x59B), (0x5A2, 0x5A7), (0x5AA, 0x5AA), (0x5C5, 0x5C5),
     (0x655, 0x656), (0x65C, 0x65C), (0x65F, 0x65F), (0x6E3, 0x6E3), (0x6EA, 0x6EA),
     (0x6ED, 0x6ED), (0x731, 0x731), (0x734, 0x734), (0x737, 0x739), (0x73B, 0x73C),
     (0x73E, 0x73E), (0x742, 0x742), (0x744, 0x744), (0x746, 0x746), (0x748, 0x748),
     (0x7F2, 0x7F2), (0x7FD, 0x7FD), (0x859, 0x85B), (0x899, 0x89B), (0x8CF, 0x8D3),
     (0x8E3, 0x8E3), (0x8E6, 0x8E6), (0x8E9, 0x8E9), (0x8ED, 0x8EF), (0x8F6, 0x8F6),
     (0x8F9, 0x8FA), (0x952, 0x952), (0xF18, 0xF19), (0xF35, 0xF35), (0xF37, 0xF37),
     (0xFC6, 0xFC6), (0x108D, 0x108D), (0x193B, 0x193B), (0x1A18, 0x1A18), (0x1A7F, 0x1A7F),
     (0x1AB5, 0x1ABA), (0x1ABD, 0x1ABD), (0x1ABF, 0x1AC0), (0x1AC3, 0x1AC4), (0x1ACA, 0x1ACA),
     (0x1B6C, 0x1B6C), (0x1CD5, 0x1CD9), (0x1CDC, 0x1CDF), (0x1CED, 0x1CED), (0x1DC2, 0x1DC2),
     (0x1DCA, 0x1DCA), (0x1DCF, 0x1DCF), (0x1DF9, 0x1DF9), (0x1DFD, 0x1DFD), (0x1DFF, 0x1DFF),
     (0x20E8, 0x20E8), (0x20EC, 0x20EF), (0xA92B, 0xA92D), (0xAAB4, 0xAAB4), (0xFE27, 0xFE2D),
     (0x101FD, 0x101FD), (0x102E0, 0x102E0), (0x10A0D, 0x10A0D), (0x10A3A, 0x10A3A),
     (0x10AE6, 0x10AE6), (0x10F46, 0x10F47), (0x10F4B, 0x10F4B), (0x10F4D, 0x10F50),
     (0x10F83, 0x10F83), (0x10F85, 0x10F85), (0x1D17B, 0x1D182), (0x1D18A, 0x1D18B),
     (0x1E8D0, 0x1E8D6)]),
   (222, [(0x59A, 0x59A), (0x5AD, 0x5AD), (0x1939, 0x1939), (0x302D, 0x302D)]),
   (224, [(0x302E, 0x302F)]),
   (226, [(0x1D16D, 0x1D16D)]),
   (228, [(0x5AE, 0x5AE), (0x18A9, 0x18A9), (0x1DF7, 0x1DF8), (0x302B, 0x302B)]),
   (230, [(0x300, 0x314), (0x33D, 0x344), (0x346, 0x346), (0x34A, 0x34C), (0x350, 0x352),
     (0x357, 0x357), (0x35B, 0x35B), (0x363, 0x36F), (0x483, 0x487), (0x592, 0x595),
     (0x597, 0x599), (0x59C, 0x5A1), (0x5A8, 0x5A9), (0x5AB, 0x5AC), (0x5AF, 0x5AF),
     (0x5C4, 0x5C4), (0x610, 0x617), (0x653, 0x654), (0x657, 0x65B), (0x65D, 0x65E),
     (0x6D6, 0x6DC), (0x6DF, 0x6E2), (0x6E4, 0x6E4), (0x6E7, 0x6E8), (0x6EB, 0x6EC),
     (0x730, 0x730), (0x732, 0x733), (0x735, 0x736), (0x73A, 0x73A), (0x73D, 0x73D),
     (0x73F, 0x741), (0x743, 0x743), (0x745, 0x745), (0x747, 0x747), (0x749, 0x74A),
     (0x7EB, 0x7F1), (0x7F3, 0x7F3), (0x816, 0x819), (0x81B, 0x823), (0x825, 0x827),
     (0x829, 0x82D), (0x898, 0x898), (0x89C, 0x89F), (0x8CA, 0x8CE), (0x8D4, 0x8E1),
     (0x8E4, 0x8E5), (0x8E7, 0x8E8), (0x8EA, 0x8EC), (0x8F3, 0x8F5), (0x8F7, 0x8F8),
     (0x8FB, 0x8FF), (0x951, 0x951), (0x953, 0x954), (0x9FE, 0x9FE), (0xF82, 0xF83),
     (0xF86, 0xF87), (0x135D, 0x135F), (0x17DD, 0x17DD), (0x193A, 0x193A), (0x1A17, 0x1A17),
     (0x1A75, 0x1A7C), (0x1AB0, 0x1AB4), (0x1ABB, 0x1ABC), (0x1AC1, 0x1AC2), (0x1AC5, 0x1AC9),
     (0x1ACB, 0x1ACE), (0x1B6B, 0x1B6B), (0x1B6D, 0x1B73), (0x1CD0, 0x1CD2), (0x1CDA, 0x1CDB),
     (0x1CE0, 0x1CE0), (0x1CF4, 0x1CF4), (0x1CF8, 0x1CF9), (0x1DC0, 0x1DC1), (0x1DC3, 0x1DC9),
     (0x1DCB, 0x1DCC), (0x1DD1, 0x1DF5), (0x1DFB, 0x1DFB), (0x1DFE, 0x1DFE), (0x20D0, 0x20D1),
     (0x20D4, 0x20D7), (0x20DB, 0x20DC), (0x20E1, 0x20E1), (0x20E7, 0x20E7), (0x20E9, 0x20E9),
     (0x20F0, 0x20F0), (0x2CEF, 0x2CF1), (0x2DE0, 0x2DFF), (0xA66F, 0xA66F), (0xA674, 0xA67D),
     (0xA69E, 0xA69F), (0xA6F0, 0xA6F1), (0xA8E0, 0xA8F1), (0xAAB0, 0xAAB0), (0xAAB2, 0xAAB3),
     (0xAAB7, 0xAAB8), (0xAABE, 0xAABF), (0xAAC1, 0xAAC1), (0xFE20, 0xFE26), (0xFE2E, 0xFE2F),
     (0x10376, 0x1037A), (0x10A0F, 0x10A0F), (0x10A38, 0x10A38), (0x10AE5, 0x10AE5),
     (0x10D24, 0x10D27), (0x10EAB, 0x10EAC), (0x10F48, 0x10F4A), (0x10F4C, 0x10F4C),
     (0x10F82, 0x10F82), (0x10F84, 0x10F84), (0x11100, 0x11102), (0x11366, 0x1136C),
     (0x11370, 0x11374), (0x1145E, 0x1145E), (0x16B30, 0x16B36), (0x1D185, 0x1D189),
     (0x1D1AA, 0x1D1AD), (0x1D242, 0x1D244), (0x1E000, 0x1E006), (0x1E008, 0x1E018),
     (0x1E01B, 0x1E021), (0x1E023, 0x1E024), (0x1E026, 0x1E02A), (0x1E130, 0x1E136),
     (0x1E2AE, 0x1E2AE), (0x1E2EC, 0x1E2EF), (0x1E944, 0x1E949)]),
   (232, [(0x315, 0x315), (0x31A, 0x31A), (0x358, 0x358), (0x1DF6, 0x1DF6), (0x302C, 0x302C)]),
   (233, [(0x35C, 0x35C), (0x35F, 0x35F), (0x362, 0x362), (0x1DFC, 0x1DFC)]),
   (234, [(0x35D, 0x35E), (0x360, 0x361), (0x1DCD, 0x1DCD)]),
   (240, [(0x345, 0x345)])]

/-- What is written for a character. -/
def plain (c : Char) : List Char :=
  match plainBlocks.find? (fun (first, last, _) => first ≤ c.toNat && c.toNat ≤ last) with
  | none => [c]
  | some (first, _, lines) =>
      match ((lines.flatMap String.toList).splitOn ' ')[c.toNat - first]? with
      | some (d :: ds) => d :: ds
      | _ => [c]

/-- The class of a mark, zero for what is none. -/
def markClass (c : Char) : Nat :=
  ((markClasses.find? (fun (_, ranges) => inRanges ranges c.toNat)).map Prod.fst).getD 0

def letterPairs : List Char → List (Char × Char)
  | c :: d :: rest => (c, d) :: letterPairs rest
  | _ => []

/-- The pairs of a character without a mark and the one with it. -/
def pairsOf (lines : List String) : List (Char × Char) := letterPairs (lines.flatMap String.toList)

/-- A Korean syllable is made of a first letter, a vowel and perhaps a last letter. -/
def syllable? (c d : Nat) : Option Char :=
  if 0x1100 ≤ c && c < 0x1113 && 0x1161 ≤ d && d < 0x1176 then
    some (Char.ofNat (0xAC00 + ((c - 0x1100) * 21 + (d - 0x1161)) * 28))
  else if 0xAC00 ≤ c && c < 0xD7A4 && (c - 0xAC00) % 28 == 0 && 0x11A7 < d && d < 0x11C3 then
    some (Char.ofNat (c + (d - 0x11A7)))
  else none

/-- The syllable or first letter before the last part of a syllable, and that part. -/
def syllableParts? (c : Nat) : Option (Char × Char) :=
  if c < 0xAC00 || 0xD7A3 < c then none
  else
    let place := c - 0xAC00
    if place % 28 == 0 then
      some (Char.ofNat (0x1100 + place / 588), Char.ofNat (0x1161 + place % 588 / 28))
    else some (Char.ofNat (c - place % 28), Char.ofNat (0x11A7 + place % 28))

/-- The one character for two. -/
def composed? (c d : Char) : Option Char :=
  (syllable? c.toNat d.toNat).or <|
    (markedLetters.find? (·.1 == d.toNat)).bind fun (_, lines) =>
      ((pairsOf lines).find? (·.1 == c)).map Prod.snd

/-- The two characters that one is for. The first letter with a mark is `0xC0`. -/
def parts? (c : Char) : Option (Char × Char) :=
  if c.toNat < 0xC0 then none
  else
    (syllableParts? c.toNat).or <|
      markedLetters.findSome? fun (mark, lines) =>
        ((pairsOf lines).find? (·.2 == c)).map fun (letter, _) => (letter, Char.ofNat mark)

/-- A character without its marks, and the marks; no character has more than `fuel` of them. -/
def decomposed : Nat → Char → List Char
  | 0, c => [c]
  | fuel + 1, c =>
      match parts? c with
      | some (letter, mark) => decomposed fuel letter ++ [mark]
      | none => [c]

/-- Puts a character before others, behind the marks of lower classes if it is a mark itself. -/
def insertMark (c : Char) : List Char → List Char
  | d :: rest =>
      if markClass d ≠ 0 && markClass d < markClass c then d :: insertMark c rest
      else c :: d :: rest
  | [] => [c]

/-- Composes a character with marks that follow it; `marks` stay between it and the rest. -/
def composeFrom (c : Char) (marks : List Char) : List Char → List Char
  | [] => c :: marks
  | d :: rest =>
      let hidden := marks.getLast?.any (fun mark => markClass d ≤ markClass mark)
      match if hidden then none else composed? c d with
      | some whole => composeFrom whole marks rest
      | none =>
          if markClass d = 0 then c :: marks ++ composeFrom d [] rest
          else composeFrom c (marks ++ [d]) rest

def compose : List Char → List Char
  | [] => []
  | c :: rest => composeFrom c [] rest

/-- The normal form of a name. A character has at most three marks. -/
def normalize (s : String) : String :=
  if s.toList.all (fun c => c.toNat < 128) then s
  else
    let parts := (s.toList.flatMap plain).flatMap (decomposed 3)
    String.ofList (compose (parts.foldr insertMark []))

end ViewModel.Text
